import SqlGate.Proofs.Query.FirstRow
import SqlGate.Proofs.Query.Layout

namespace SqlGate

/-!
# The statement that counts rows

A selection is three texts behind one another: what is selected, the body from the
table to the conditions on groups, and the tail of order and page.  Only the body
binds values, and nothing in front of it does, so its placeholders have the same
numbers whatever is selected.

Counting keeps the body and replaces the other two.  It can fail only where the
selection fails, and then for the same reason, since neither what is selected nor
the tail is ever at fault.
-/

namespace Template

/-- A template that binds nothing is written in one way, wherever the counting stands. -/
theorem write_of_params_eq_nil {template : Template} (bindsNone : template.params = [])
    (next other : Nat) : write next template = write other template := by
  induction template with
  | nil => rfl
  | cons piece rest ih =>
      cases piece with
      | text s => rw [write, write, ih bindsNone]
      | fragment s => rw [write, write, ih bindsNone]
      | bound v => cases bindsNone

theorem sql_append {front : Template} (bindsNone : front.params = []) (behind : Template) :
    (statement (front ++ behind)).sql = (statement front).sql ++ (statement behind).sql := by
  simp [statement, write_append, bindsNone, String.ofList_append]

/-- A template between two that bind nothing keeps its text and its parameters. -/
theorem statement_between {front behind : Template} (frontBindsNone : front.params = [])
    (behindBindsNone : behind.params = []) (body : Template) :
    statement (front ++ body ++ behind)
      = ⟨(statement front).sql ++ (statement body).sql ++ (statement behind).sql, body.params⟩ := by
  have tail : write (1 + body.params.length) behind = write 1 behind :=
    write_of_params_eq_nil behindBindsNone _ _
  simp [statement, write_append, tail, frontBindsNone, behindBindsNone, String.ofList_append,
    String.append_assoc]

/-- Items that bind nothing, with commas. -/
theorem sql_commas {ι : Type} {item : ι -> Template} (bindsNone : ∀ i, (item i).params = [])
    (items : List ι) :
    (statement (commas (items.map item))).sql
      = ", ".intercalate (items.map fun i => (statement (item i)).sql) := by
  induction items with
  | nil => rfl
  | cons first rest ih =>
      cases rest with
      | nil => simp [commas, separated]
      | cons second others =>
          have behind : commas ((first :: second :: others).map item)
              = item first ++ ([.text ", "] ++ commas ((second :: others).map item)) := by
            simp [commas, separated]
          have comma : (statement [.text ", "]).sql = ", " := rfl
          rw [behind, sql_append (bindsNone first), sql_append rfl, ih, comma, List.map_cons,
            List.map_cons, List.map_cons, String.intercalate_cons_cons, String.append_assoc]

end Template

namespace Draft

def columnText (draft : Draft) : String :=
  if draft.columns.isEmpty then "*" else ", ".intercalate draft.columns

def orderText (draft : Draft) : String :=
  if draft.orderBy.isEmpty then ""
  else " ORDER BY " ++ ", ".intercalate
    (draft.orderBy.map fun order => order.field ++ " " ++ order.direction.sql)

/-- The text of a selection behind its conditions on groups. -/
def tailText (draft : Draft) : String :=
  draft.orderText ++ countText " LIMIT " draft.limit ++ countText " OFFSET " draft.offset

/-- A selection and a statement that counts its rows: both have the body of the draft, from its
table to its conditions on groups, and its parameters. -/
def Counts (draft : Draft) (statement counted : Statement) : Prop :=
  ∃ wheres having body : Template,
    Predicate.whereClause draft.wheres = .ok wheres
      ∧ Predicate.havingClause draft.having = .ok having
      ∧ body = [.text " FROM ", .fragment draft.table] ++ draft.joins.flatMap joinClause
          ++ wheres ++ draft.groupClause ++ having
      ∧ statement.sql = "SELECT " ++ draft.columnText ++ body.statement.sql ++ draft.tailText
      ∧ counted.sql = "SELECT COUNT(*) AS count" ++ body.statement.sql
      ∧ statement.params = body.params
      ∧ counted.params = body.params

theorem Counts.params_eq {draft : Draft} {statement counted : Statement}
    (counts : draft.Counts statement counted) : counted.params = statement.params := by
  obtain ⟨wheres, having, body, -, -, -, -, -, params, countedParams⟩ := counts
  exact countedParams.trans params.symm

theorem sql_columnList (draft : Draft) :
    (Template.statement draft.columnList).sql = draft.columnText := by
  have single : ∀ name : String, (Template.statement [.fragment name]).sql = name := by
    intro name
    simp [Template.statement, Template.write]
  unfold columnList columnText
  split
  · rfl
  · rw [fragments, Template.sql_commas fun _ => rfl]
    simp only [single, List.map_id']

theorem sql_orderClause (draft : Draft) :
    (Template.statement draft.orderClause).sql = draft.orderText := by
  have single : ∀ order : OrderBy,
      (Template.statement [.fragment order.field, .text (" " ++ order.direction.sql)]).sql
        = order.field ++ " " ++ order.direction.sql := by
    intro order
    simp [Template.statement, Template.write, String.ofList_append, String.append_assoc]
  unfold orderClause orderText
  split
  · rfl
  · rw [← List.singleton_append, Template.sql_append rfl, Template.sql_commas fun _ => rfl]
    simp only [single]
    rfl

/-- The three texts of a selection. -/
theorem statement_selection (draft : Draft) (body : Template) :
    Template.statement ([.text "SELECT "] ++ draft.columnList ++ body ++ draft.orderClause
        ++ draft.pageClause)
      = ⟨"SELECT " ++ draft.columnText ++ body.statement.sql ++ draft.tailText, body.params⟩ := by
  have front : Template.params ([.text "SELECT "] ++ draft.columnList) = [] := by
    rw [Template.params_append, (layout_columnList draft).params_eq]
    rfl
  have selected : Template.statement ([.text "SELECT "] ++ draft.columnList ++ body
        ++ draft.orderClause)
      = ⟨"SELECT " ++ draft.columnText ++ body.statement.sql ++ draft.orderText, body.params⟩ := by
    rw [Template.statement_between front (layout_orderClause draft).1.params_eq,
      Template.sql_append rfl, sql_columnList, sql_orderClause]
    rfl
  rw [pageClause, ← List.append_assoc, statement_append_countClause, statement_append_countClause,
    selected, tailText]
  simp only [String.append_assoc]

/-- A selection has its three texts, if its table is not blank and its body can be written. -/
theorem compile_of_body (draft : Draft) (selects : draft.kind = some .select) :
    draft.compile =
      if Text.isBlankText draft.table then .error .noTable
      else draft.selectBody.map fun body =>
        ⟨"SELECT " ++ draft.columnText ++ body.statement.sql ++ draft.tailText, body.params⟩ := by
  rw [compile_of_select draft selects]
  simp only [statement_selection]

/-- What counts has the same body behind the one column that counts, and nothing behind it. -/
theorem compile_countDraft (draft : Draft) (selects : draft.kind = some .select) :
    (Builder.countDraft draft).compile =
      if Text.isBlankText draft.table then .error .noTable
      else draft.selectBody.map fun body =>
        ⟨"SELECT COUNT(*) AS count" ++ body.statement.sql, body.params⟩ := by
  have column : (Builder.countDraft draft).columnText = "COUNT(*) AS count" := by
    show ", ".intercalate ["COUNT(*) AS count"] = _
    exact String.intercalate_singleton
  have tail : (Builder.countDraft draft).tailText = "" := rfl
  have opening : "SELECT " ++ "COUNT(*) AS count" = "SELECT COUNT(*) AS count" := by decide
  rw [compile_of_body (Builder.countDraft draft) selects, column, tail, opening]
  simp only [String.append_empty]
  rfl

/-- A selection and what counts its rows fail together, or have a body in common. -/
theorem counts_or_error (draft : Draft) (selects : draft.kind = some .select) :
    (∃ statement counted, draft.compile = .ok statement
        ∧ (Builder.countDraft draft).compile = .ok counted ∧ draft.Counts statement counted)
      ∨ ∃ fault, draft.compile = .error fault
        ∧ (Builder.countDraft draft).compile = .error fault := by
  rw [compile_of_body draft selects, compile_countDraft draft selects]
  split
  · exact .inr ⟨_, rfl, rfl⟩
  · cases written : draft.selectBody with
    | error fault => exact .inr ⟨fault, rfl, rfl⟩
    | ok body =>
        obtain ⟨wheres, whereWritten, written⟩ := exists_ok_of_bind written
        obtain ⟨having, havingWritten, written⟩ := exists_ok_of_bind written
        exact .inl ⟨_, _, rfl, rfl, wheres, having, body, whereWritten, havingWritten,
          (Except.ok.inj written).symm, rfl, rfl, rfl, rfl⟩

end Draft

namespace Builder

variable {b : Builder}

/-- Counting a selection, or a builder without a kind, fails as its statement does, or has the
same body. -/
theorem buildCount_of_countable (drafted : b.raw = none)
    (countable : b.draft.kind = none ∨ b.draft.kind = some .select) :
    (b.draft.kind = some .select ∧ ∃ statement counted, b.build = .ok statement
        ∧ b.buildCount = .ok counted ∧ b.draft.Counts statement counted)
      ∨ ∃ fault, b.build = .error fault ∧ b.buildCount = .error fault := by
  cases faulty : b.fault with
  | some fault =>
      exact .inr ⟨fault, build_of_fault drafted faulty,
        buildCount_of_fault drafted faulty countable⟩
  | none =>
      have noOther : b.isOtherKind = false := by
        rcases countable with kind | kind <;> rw [isOtherKind, kind] <;> rfl
      have counting : b.buildCount = (countDraft b.draft).compile := by
        rw [buildCount, noOther, Bool.and_false, if_neg Bool.false_ne_true]
        exact (b.edit countDraft).build_of_sound drafted faulty
      rw [b.build_of_sound drafted faulty, counting]
      rcases countable with unset | selects
      · refine .inr ⟨.noKind, ?_, ?_⟩
        · rw [Draft.compile, Draft.template, unset]
          rfl
        · rw [Draft.compile, Draft.template, show (countDraft b.draft).kind = none from unset]
          rfl
      · rcases Draft.counts_or_error b.draft selects with counts | fails
        · exact .inl ⟨selects, counts⟩
        · exact .inr fails

/-- Counting the rows of a builder.  After any calls that give no finished statement, there is a
statement that counts exactly if the builder is a selection that has a statement.  The two bind the
same values and have the same text from the table to the conditions on groups; in front of it, all
that is selected is replaced by `COUNT(*) AS count`, and nothing of order and page is left behind
it.  And if a selection, or a builder without a kind, has no statement, then counting fails with the
same fault. -/
theorem buildCount_of_calls (table : String) {calls : List Call}
    (drafted : calls.filterMap Call.finished? = []) :
    ((∃ counted, ((new table).applyAll calls).buildCount = .ok counted) ↔
      ((new table).applyAll calls).draft.kind = some .select
        ∧ ∃ statement, ((new table).applyAll calls).build = .ok statement)
    ∧ (∀ statement counted, ((new table).applyAll calls).build = .ok statement ->
        ((new table).applyAll calls).buildCount = .ok counted ->
        ((new table).applyAll calls).draft.Counts statement counted
          ∧ counted.params = statement.params)
    ∧ ∀ fault, ((new table).applyAll calls).draft.kind = some .select
          ∨ ((new table).applyAll calls).draft.kind = none ->
        ((new table).applyAll calls).build = .error fault ->
        ((new table).applyAll calls).buildCount = .error fault := by
  have unfinished : ((new table).applyAll calls).raw = none := by
    rw [raw_applyAll, drafted]
    rfl
  generalize (new table).applyAll calls = b at unfinished ⊢
  by_cases countable : b.draft.kind = none ∨ b.draft.kind = some .select
  · rcases buildCount_of_countable unfinished countable with
      ⟨selects, statement, counted, built, counting, counts⟩ | ⟨fault, fails, countFails⟩
    · rw [built, counting]
      refine ⟨⟨fun _ => ⟨selects, statement, rfl⟩, fun _ => ⟨counted, rfl⟩⟩, ?_, ?_⟩
      · rintro _ _ ⟨⟩ ⟨⟩
        exact ⟨counts, counts.params_eq⟩
      · intro fault _ impossible
        cases impossible
    · rw [fails, countFails]
      refine ⟨⟨?_, ?_⟩, ?_, fun _ _ same => same⟩
      · rintro ⟨counted, ⟨⟩⟩
      · rintro ⟨-, statement, ⟨⟩⟩
      · rintro statement counted ⟨⟩
  · obtain ⟨unset, selects⟩ := not_or.mp countable
    obtain ⟨kind, chosen⟩ := Option.ne_none_iff_exists'.mp unset
    have other : kind ≠ .select := fun same => selects (same ▸ chosen)
    rw [buildCount_of_otherKind unfinished chosen other]
    refine ⟨⟨?_, ?_⟩, ?_, ?_⟩
    · rintro ⟨counted, ⟨⟩⟩
    · rintro ⟨selects', -⟩
      exact absurd selects' selects
    · rintro statement counted - ⟨⟩
    · intro fault countable'
      exact absurd countable'.symm countable

/-- Calls that make a selection with every clause. -/
def busyRoutes : List Call :=
  [.select, .columns ["origin"], .join ⟨.left, "airports", some "a", "a.code = origin"⟩,
    .condition .and "delay" (.known .gt) (.scalar (.int 15)), .groupBy ["origin"],
    .having "COUNT(*)" (.spelled " >= ") (.scalar (.int 3)), .orderBy "origin" .asc, .limit 10,
    .offset 20]

def busyRoutesCount : Statement :=
  ⟨"SELECT COUNT(*) AS count FROM flights LEFT JOIN airports AS a ON a.code = origin"
    ++ " WHERE delay > $1 GROUP BY origin HAVING COUNT(*) >= $2", [.int 15, .int 3]⟩

theorem buildCount_busyRoutes :
    ((new "flights").applyAll busyRoutes).buildCount = .ok busyRoutesCount
      ∧ busyRoutes.filterMap Call.finished? = []
      ∧ ∃ statement counted, ((new "flights").applyAll busyRoutes).build = .ok statement
          ∧ ((new "flights").applyAll busyRoutes).buildCount = .ok counted
          ∧ ((new "flights").applyAll busyRoutes).draft.Counts statement counted := by
  have counting : ((new "flights").applyAll busyRoutes).buildCount = .ok busyRoutesCount :=
    eq_ok_of_toOption (by decide +kernel)
  have drafted : busyRoutes.filterMap Call.finished? = [] := by decide
  obtain ⟨succeeds, bodies, -⟩ := buildCount_of_calls "flights" drafted
  obtain ⟨-, statement, built⟩ := succeeds.mp ⟨_, counting⟩
  exact ⟨counting, drafted, statement, _, built, counting, (bodies _ _ built counting).1⟩

end Builder
end SqlGate
