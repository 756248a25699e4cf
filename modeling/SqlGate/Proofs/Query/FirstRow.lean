import SqlGate.Proofs.Query.Facets
import SqlGate.Proofs.Query.Normal
import SqlGate.Proofs.Success

namespace SqlGate

/-!
# Asking for the first row

The statement that returns the first row is the builder's own with the limit set
to one.  Only a selection writes its limit.  There the page stands at the very
end, so that the statement is the one without a page, followed by the new limit
and the old offset, and binds the same values.  Every other kind of statement
ignores the limit, and nothing refuses it: what is built for the first row is
then the insertion, update or deletion itself.
-/

/-- The text that a statement of a kind begins with. -/
def StatementKind.opening : StatementKind -> String
  | .select => "SELECT "
  | .insert => "INSERT INTO "
  | .update => "UPDATE "
  | .delete => "DELETE FROM "

namespace Draft

def withoutPage (draft : Draft) : Draft :=
  { draft with limit := none, offset := none }

/-- The text of a number behind its keyword, if there is one. -/
def countText (keyword : String) : Option Nat -> String
  | some n => keyword ++ String.ofList (Text.ofNat n)
  | none => ""

/-- Whether a statement is the draft's selection up to its order, with a limit of one row and
the draft's offset behind it. -/
def SelectsFirst (draft : Draft) (one : Statement) : Prop :=
  ∃ front : Statement, draft.withoutPage.compile = .ok front
    ∧ StatementKind.select.opening.toList <+: front.sql.toList
    ∧ one.sql = front.sql ++ " LIMIT 1" ++ countText " OFFSET " draft.offset
    ∧ one.params = front.params

end Draft

/-! ## How statements begin and end -/

namespace Template

/-- A template with nothing bound behind it: its text is added, its parameters stay. -/
theorem statement_append_text (front : Template) (text : String) :
    statement (front ++ [.text text]) = ⟨(statement front).sql ++ text, (statement front).params⟩ := by
  simp [statement, write_append, write, String.ofList_append]

end Template

namespace Draft

variable {draft : Draft}

theorem statement_append_countClause (front : Template) (keyword : String) (count : Option Nat) :
    Template.statement (front ++ countClause keyword count)
      = ⟨(Template.statement front).sql ++ countText keyword count,
          (Template.statement front).params⟩ := by
  cases count with
  | none => simp [countClause, countText]
  | some n => exact Template.statement_append_text front _

/-- A selection is the one without a page, with the limit and the offset behind it. -/
theorem compile_of_page (draft : Draft) (selects : draft.kind = some .select) :
    draft.compile = draft.withoutPage.compile.map fun front =>
      ⟨front.sql ++ countText " LIMIT " draft.limit ++ countText " OFFSET " draft.offset,
        front.params⟩ := by
  rw [compile_of_select draft selects, compile_of_select draft.withoutPage selects]
  change _ = Except.map _ (if Text.isBlankText draft.table then _ else
    draft.selectBody.map fun body => Template.statement
      ([.text "SELECT "] ++ draft.columnList ++ body ++ draft.orderClause ++ []))
  split
  · rfl
  · cases draft.selectBody with
    | error fault => rfl
    | ok body =>
        simp only [Except.map, List.append_nil, pageClause, ← List.append_assoc,
          statement_append_countClause]

/-- A statement of another kind has no page to write. -/
theorem compile_of_other (other : draft.kind ≠ some .select) (limit : Option Nat) :
    ({ draft with limit := limit } : Draft).compile = draft.compile := by
  rw [compile, compile, template, template]
  cases chosen : draft.kind with
  | none => rfl
  | some kind =>
      cases kind with
      | select => exact absurd chosen other
      | insert | update | delete => rfl

theorem exists_template_eq_opening {kind : StatementKind} {found : Template}
    (chosen : draft.kind = some kind) (succeeds : draft.template = .ok found) :
    ∃ rest, found = .text kind.opening :: rest := by
  rw [template, chosen] at succeeds
  dsimp only at succeeds
  split at succeeds
  · cases succeeds
  · cases kind with
    | select =>
        obtain ⟨body, -, succeeds⟩ := exists_ok_of_bind succeeds
        cases succeeds
        exact ⟨_, rfl⟩
    | insert =>
        change draft.insertTemplate = .ok found at succeeds
        unfold insertTemplate at succeeds
        split at succeeds <;> cases succeeds
        exact ⟨_, rfl⟩
    | update =>
        change draft.updateTemplate = .ok found at succeeds
        unfold updateTemplate at succeeds
        split at succeeds
        · cases succeeds
        · obtain ⟨wheres, -, succeeds⟩ := exists_ok_of_bind succeeds
          cases succeeds
          exact ⟨_, rfl⟩
    | delete =>
        obtain ⟨wheres, -, succeeds⟩ := exists_ok_of_bind succeeds
        cases succeeds
        exact ⟨_, rfl⟩

/-- A statement begins with the words of its kind. -/
theorem opening_prefix_of_compile (draft : Draft) {kind : StatementKind}
    {statement : Statement} (chosen : draft.kind = some kind) (compiled : draft.compile = .ok statement) :
    kind.opening.toList <+: statement.sql.toList := by
  obtain ⟨found, succeeds, rfl⟩ := exists_ok_of_map compiled
  obtain ⟨rest, rfl⟩ := exists_template_eq_opening chosen succeeds
  rw [Template.statement, String.toList_ofList, Template.write]
  exact List.prefix_append _ _

/-- Each kind begins in its own way. -/
theorem eq_of_opening_prefix {kind other : StatementKind} {text : List Char}
    (begins : kind.opening.toList <+: text) (also : other.opening.toList <+: text) :
    kind = other := by
  obtain ⟨rest, rfl⟩ := begins
  obtain ⟨others, same⟩ := also
  have first := congrArg List.head? same
  cases kind <;> cases other <;> first | rfl | exact absurd first (by simp [StatementKind.opening])

/-- A selection with a limit of one selects the first row. -/
theorem selectsFirst_of_select {one : Statement} (selects : draft.kind = some .select)
    (compiled : ({ draft with limit := some 1 } : Draft).compile = .ok one) :
    draft.SelectsFirst one := by
  rw [compile_of_page { draft with limit := some 1 } selects] at compiled
  obtain ⟨front, succeeds, rfl⟩ := exists_ok_of_map compiled
  have begins := opening_prefix_of_compile draft.withoutPage selects succeeds
  exact ⟨front, succeeds, begins, rfl, rfl⟩

/-- What selects the first row is a selection. -/
theorem SelectsFirst.kind_eq {one : Statement} {kind : StatementKind}
    (first : draft.SelectsFirst one) (chosen : draft.kind = some kind) : kind = .select := by
  obtain ⟨front, compiled, begins, -, -⟩ := first
  exact eq_of_opening_prefix
    (opening_prefix_of_compile draft.withoutPage chosen compiled) begins

theorem kind_ne_none_of_compile {statement : Statement} (compiled : draft.compile = .ok statement) :
    draft.kind ≠ none := by
  intro unset
  rw [compile, template, unset] at compiled
  cases compiled

/-- The limit does not decide whether there is a statement, nor what it binds. -/
theorem exists_compile_of_limit (draft : Draft) {statement : Statement}
    (compiled : draft.compile = .ok statement) (limit : Option Nat) : ∃ other : Statement,
      ({ draft with limit := limit } : Draft).compile = .ok other
      ∧ other.params = statement.params := by
  by_cases selects : draft.kind = some .select
  · rw [compile_of_page draft selects] at compiled
    obtain ⟨front, succeeds, rfl⟩ := exists_ok_of_map compiled
    rw [compile_of_page { draft with limit := limit } selects]
    exact ⟨_, congrArg (Except.map _) succeeds, rfl⟩
  · exact ⟨statement, (compile_of_other selects limit).trans compiled, rfl⟩

end Draft

namespace Builder

variable {statement : Statement}

theorem fault_of_build (b : Builder) (drafted : b.raw = none)
    (built : b.build = .ok statement) : b.fault = none := by
  cases faulty : b.fault with
  | none => rfl
  | some fault =>
      rw [build_of_fault drafted faulty] at built
      cases built

theorem build_of_sound (b : Builder) (drafted : b.raw = none) (sound : b.fault = none) :
    b.build = b.draft.compile := by
  rw [build, drafted, sound]

theorem buildOne_of_sound (b : Builder) (drafted : b.raw = none) (sound : b.fault = none) :
    b.buildOne = ({ b.draft with limit := some 1 } : Draft).compile :=
  (b.limit 1).build_of_sound drafted sound

/-- What is built for the first row.  After any calls that give no finished statement, there is a
statement for the first row exactly if there is one at all, and both bind the same values.  It is
the selection of the builder up to its order, limited to one row, with the builder's offset behind
it, exactly if the builder is a selection; for every other kind it is the builder's own statement,
without any limit. -/
theorem selectsFirst_of_calls (table : String) {calls : List Call}
    (drafted : calls.filterMap Call.finished? = []) :
    (∀ one, ((new table).applyAll calls).buildOne = .ok one ->
      (((new table).applyAll calls).draft.SelectsFirst one ↔
        ((new table).applyAll calls).draft.kind = some .select)
      ∧ ∃ statement, ((new table).applyAll calls).build = .ok statement
          ∧ one.params = statement.params
          ∧ (((new table).applyAll calls).draft.kind ≠ some .select -> one = statement))
    ∧ ∀ statement, ((new table).applyAll calls).build = .ok statement ->
        ∃ one, ((new table).applyAll calls).buildOne = .ok one := by
  have unfinished : ((new table).applyAll calls).raw = none := by
    rw [raw_applyAll, drafted]
    rfl
  generalize (new table).applyAll calls = b at unfinished ⊢
  refine ⟨?_, ?_⟩
  · intro one built
    have sound : b.fault = none := (b.limit 1).fault_of_build unfinished built
    rw [b.buildOne_of_sound unfinished sound] at built
    obtain ⟨statement, compiled, bound⟩ :=
      Draft.exists_compile_of_limit { b.draft with limit := some 1 } built b.draft.limit
    refine ⟨⟨?_, fun selects => Draft.selectsFirst_of_select selects built⟩, statement, ?_,
      bound.symm, ?_⟩
    · intro first
      obtain ⟨kind, chosen⟩ :=
        Option.ne_none_iff_exists'.mp (Draft.kind_ne_none_of_compile built)
      rw [← first.kind_eq chosen]
      exact chosen
    · rw [b.build_of_sound unfinished sound]
      exact compiled
    · intro other
      rw [Draft.compile_of_other other] at built
      exact Except.ok.inj (built.symm.trans compiled)
  · intro statement built
    have sound := b.fault_of_build unfinished built
    rw [b.build_of_sound unfinished sound] at built
    obtain ⟨one, compiled, -⟩ := Draft.exists_compile_of_limit b.draft built (some 1)
    exact ⟨one, (b.buildOne_of_sound unfinished sound).trans compiled⟩

/-- Calls that make a selection with a condition, an order and a page of its own. -/
def lateFlightsPage : List Call :=
  [.select, .condition .and "delay" (.known .gt) (.scalar (.int 15)), .orderBy "delay" .desc,
    .limit 50, .offset 5]

theorem selectsFirst_lateFlightsPage :
    ((new "flights").applyAll lateFlightsPage).buildOne
        = .ok ⟨"SELECT * FROM flights WHERE delay > $1 ORDER BY delay DESC LIMIT 1 OFFSET 5",
          [.int 15]⟩
      ∧ lateFlightsPage.filterMap Call.finished? = []
      ∧ ((new "flights").applyAll lateFlightsPage).draft.SelectsFirst
        ⟨"SELECT * FROM flights WHERE delay > $1 ORDER BY delay DESC LIMIT 1 OFFSET 5",
          [.int 15]⟩ := by
  have built : ((new "flights").applyAll lateFlightsPage).buildOne
      = .ok ⟨"SELECT * FROM flights WHERE delay > $1 ORDER BY delay DESC LIMIT 1 OFFSET 5",
        [.int 15]⟩ := eq_ok_of_toOption (by decide +kernel)
  have drafted : lateFlightsPage.filterMap Call.finished? = [] := by decide
  exact ⟨built, drafted, (((selectsFirst_of_calls "flights" drafted).1 _ built).1).mpr (by decide)⟩

/-- It is not so that whatever is built for the first row selects it: after `delete`, all rows of
the table are deleted. -/
theorem not_forall_selectsFirst :
    ¬ ∀ (table : String) (calls : List Call) (one : Statement),
      calls.filterMap Call.finished? = [] ->
      ((new table).applyAll calls).buildOne = .ok one ->
      ((new table).applyAll calls).draft.SelectsFirst one := by
  intro claimed
  have built : ((new "flights").applyAll [.delete]).buildOne = .ok ⟨"DELETE FROM flights", []⟩ :=
    eq_ok_of_toOption (by decide +kernel)
  have deletes : ((new "flights").applyAll [.delete]).draft.kind = some .delete := rfl
  have first := claimed "flights" [.delete] _ rfl built
  exact absurd (first.kind_eq deletes) (by decide)

end Builder
end SqlGate
