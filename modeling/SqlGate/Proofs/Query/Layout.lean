import SqlGate.Query.Compile
import SqlGate.Proofs.Success

namespace SqlGate

/-!
# What a statement takes over and what it binds

A statement is made of three things: text of its own, texts taken over from the
caller, and bound values.  This module says for every kind of statement which
texts it takes over and which values it binds, in order, without a look at how
the statement is put together, and shows that compiling a draft writes exactly
these.

Two facts about the statement's own text are kept beside, because a reader of
the finished text relies on them: it never holds a dollar sign, and wherever a
value is bound, what stands right behind is text of the statement that begins
with no digit, another value, or the end.  Both hold of every clause, so they
are carried through the clauses together with the two lists.
-/

/-! ## The two lists of a draft -/

def Join.taken (join : Join) : List String :=
  join.table :: join.alias?.toList ++ [join.on]

namespace Draft

/-- The texts that a statement of the draft's kind takes over, in order. -/
def taken (draft : Draft) : List String :=
  match draft.kind with
  | none => []
  | some .select =>
      draft.columns ++ draft.table :: draft.joins.flatMap Join.taken
        ++ draft.wheres.map Predicate.field ++ draft.groupBy
        ++ draft.having.map Predicate.field ++ draft.orderBy.map OrderBy.field
  | some .insert => draft.table :: draft.insertValues.keys
  | some .update =>
      draft.table :: draft.updateValues.keys ++ draft.wheres.map Predicate.field
  | some .delete => draft.table :: draft.wheres.map Predicate.field

/-- The values that a statement of the draft's kind binds, in order. -/
def bound (draft : Draft) : List Value :=
  match draft.kind with
  | none => []
  | some .select =>
      draft.wheres.flatMap Predicate.values ++ draft.having.flatMap Predicate.values
  | some .insert => draft.insertValues.values
  | some .update => draft.updateValues.values ++ draft.wheres.flatMap Predicate.values
  | some .delete => draft.wheres.flatMap Predicate.values

end Draft

namespace Template

/-! ## Layouts -/

/-- The texts that a template takes over, in order. -/
def taken : Template -> List String
  | [] => []
  | .fragment s :: rest => s :: taken rest
  | _ :: rest => taken rest

/-- Text of the statement language: it begins, and with no digit, and holds no dollar sign. -/
def isPlain (s : String) : Bool :=
  (s.toList.head?.any fun c => !c.isDigit) && !s.toList.contains '$'

/-- Whether a template may stand right behind a value: no text of the caller comes first. -/
def opens : Template -> Bool
  | .fragment _ :: _ => false
  | _ => true

/-- Whether no text of the caller stands right behind a value. -/
def isSpaced : Template -> Bool
  | [] => true
  | .bound _ :: rest => opens rest && isSpaced rest
  | _ :: rest => isSpaced rest

@[simp] theorem taken_append (front behind : Template) :
    taken (front ++ behind) = taken front ++ taken behind := by
  induction front with
  | nil => rfl
  | cons piece rest ih => cases piece <;> simp [taken, ih]

theorem opens_append {front behind : Template} (first : front.opens) (second : behind.opens) :
    opens (front ++ behind) := by
  cases front with
  | nil => exact second
  | cons piece rest => cases piece <;> first | rfl | exact first

/-- Templates stay spaced when the second one may stand behind a value. -/
theorem isSpaced_append {front behind : Template} (first : front.isSpaced)
    (second : behind.isSpaced) (opening : behind.opens) : isSpaced (front ++ behind) := by
  induction front with
  | nil => exact second
  | cons piece rest ih =>
      cases piece with
      | text s => exact ih first
      | fragment s => exact ih first
      | bound v =>
          have parts := Bool.and_eq_true_iff.mp first
          exact Bool.and_eq_true_iff.mpr ⟨opens_append parts.1 opening, ih parts.2⟩

/-- A template takes over these texts and binds these values, in order, and
its own text can be told from placeholders wherever it stands. -/
structure Layout (template : Template) (names : List String) (values : List Value) : Prop where
  /-- The texts taken over. -/
  taken_eq : template.taken = names
  /-- The values bound. -/
  params_eq : template.params = values
  /-- All other text is plain. -/
  plain : ∀ s, Piece.text s ∈ template -> isPlain s = true
  /-- No text of the caller stands right behind a value. -/
  spaced : template.isSpaced = true

namespace Layout

variable {front behind rest : Template} {names otherNames : List String}
  {vs others : List Value}

theorem nil : Layout [] [] [] :=
  ⟨rfl, rfl, fun _ member => absurd member List.not_mem_nil, rfl⟩

theorem text {s : String} (plain : isPlain s = true) (layout : Layout rest names vs) :
    Layout (.text s :: rest) names vs := by
  refine ⟨layout.taken_eq, layout.params_eq, ?_, layout.spaced⟩
  intro t member
  rcases List.mem_cons.mp member with same | later
  · rw [Piece.text.inj same]
    exact plain
  · exact layout.plain t later

theorem fragment (s : String) (layout : Layout rest names vs) :
    Layout (.fragment s :: rest) (s :: names) vs := by
  refine ⟨congrArg (s :: ·) layout.taken_eq, layout.params_eq, ?_, layout.spaced⟩
  intro t member
  rcases List.mem_cons.mp member with impossible | later
  · cases impossible
  · exact layout.plain t later

theorem bound (v : Value) (layout : Layout rest names vs) (opening : rest.opens = true) :
    Layout (.bound v :: rest) names (v :: vs) := by
  refine ⟨layout.taken_eq, congrArg (v :: ·) layout.params_eq, ?_,
    Bool.and_eq_true_iff.mpr ⟨opening, layout.spaced⟩⟩
  intro t member
  rcases List.mem_cons.mp member with impossible | later
  · cases impossible
  · exact layout.plain t later

/-- Layouts are put behind one another like their templates. -/
theorem append (first : Layout front names vs) (second : Layout behind otherNames others)
    (opening : behind.opens = true) :
    Layout (front ++ behind) (names ++ otherNames) (vs ++ others) where
  taken_eq := by rw [taken_append, first.taken_eq, second.taken_eq]
  params_eq := by rw [params_append, first.params_eq, second.params_eq]
  plain := by
    intro s member
    rcases List.mem_append.mp member with before | after
    · exact first.plain s before
    · exact second.plain s after
  spaced := isSpaced_append first.spaced second.spaced opening

/-- A list of clauses, each of which may stand behind a value. -/
theorem flatMap {ι : Type} {clause : ι -> Template} {namesOf : ι -> List String}
    (each : ∀ i, Layout (clause i) (namesOf i) [] ∧ (clause i).opens = true) (items : List ι) :
    Layout (items.flatMap clause) (items.flatMap namesOf) []
      ∧ opens (items.flatMap clause) = true := by
  induction items with
  | nil => exact ⟨nil, rfl⟩
  | cons item rest ih =>
      simp only [List.flatMap_cons]
      exact ⟨(each item).1.append ih.1 ih.2, opens_append (each item).2 ih.2⟩

/-- A list with commas: the comma is what stands behind a value. -/
theorem commas {ι : Type} {item : ι -> Template} {namesOf : ι -> List String}
    {valuesOf : ι -> List Value} (each : ∀ i, Layout (item i) (namesOf i) (valuesOf i))
    (items : List ι) :
    Layout (commas (items.map item)) (items.flatMap namesOf) (items.flatMap valuesOf) := by
  induction items with
  | nil => exact nil
  | cons first rest ih =>
      cases rest with
      | nil => simpa [Template.commas, separated] using each first
      | cons second others =>
          have behind := ih.text (s := ", ") (by decide)
          simpa [Template.commas, separated] using (each first).append behind rfl

/-- Items that contribute nothing to a list leave it empty. -/
theorem flatMap_nothing {ι α : Type} (items : List ι) :
    (items.flatMap fun _ => ([] : List α)) = [] :=
  List.flatMap_eq_nil_iff.mpr fun _ _ => rfl

theorem values (vs : List Value) : Layout (Template.values vs) [] vs := by
  have layout := commas (fun v => nil.bound v rfl) vs
  rwa [flatMap_nothing, List.flatMap_singleton'] at layout

theorem fragments (names : List String) : Layout (Draft.fragments names) names [] := by
  have layout := commas (fun name => nil.fragment name) names
  rwa [flatMap_nothing, List.flatMap_singleton'] at layout

end Layout
end Template

open Template (Layout)

/-! ## Predicates -/

namespace Predicate

/-- What stands to the right of an operator takes over nothing and binds the operand. -/
theorem layout_rightSide {p : Predicate} {right : Template} (succeeds : p.rightSide = .ok right) :
    Layout right [] p.operand.values ∧ right.opens = true := by
  unfold rightSide at succeeds
  split at succeeds <;> cases succeeds
  case h_2 vs _ operand _ =>
    have layout := (Layout.values vs).append (Layout.nil.text (s := ")") (by decide)) rfl
    rw [operand]
    exact ⟨by simpa [Operand.values] using layout.text (s := "(") (by decide), rfl⟩
  case h_3 v operand _ =>
    rw [operand]
    exact ⟨((Layout.nil.text (by decide)).bound v rfl).text (by decide), rfl⟩
  case h_4 v operand _ =>
    rw [operand]
    exact ⟨Layout.nil.bound v rfl, rfl⟩

/-- A predicate takes over its field and binds the values of its operand, if it has a right
side at all. -/
theorem layout_template {p : Predicate} {here : Template} (succeeds : p.template = .ok here) :
    Layout here [p.field] p.values := by
  unfold template at succeeds
  split at succeeds
  · rename_i unary
    cases succeeds
    rw [Predicate.values, if_pos unary]
    exact (Layout.nil.text (by cases p.operator <;> decide)).fragment p.field
  · rename_i binary
    cases right : p.rightSide with
    | error fault => rw [right] at succeeds; cases succeeds
    | ok side =>
        rw [right] at succeeds
        cases succeeds
        rw [Predicate.values, if_neg binary]
        exact ((layout_rightSide right).1.text (by cases p.operator <;> decide)).fragment p.field

/-- What may stand between two predicates. -/
def IsJoiner (joiner : Predicate -> Template) : Prop :=
  ∀ p, ∃ s, joiner p = [.text s] ∧ Template.isPlain s = true

theorem isJoiner_joiner : IsJoiner joiner := by
  intro p
  unfold joiner
  cases p.connective
  · exact ⟨" AND ", rfl, by decide⟩
  · exact ⟨" OR ", rfl, by decide⟩

theorem isJoiner_and : IsJoiner fun _ => [.text " AND "] :=
  fun _ => ⟨" AND ", rfl, by decide⟩

variable {joiner : Predicate -> Template}

theorem layout_followers (joins : IsJoiner joiner) {ps : List Predicate} {found : Template}
    (succeeds : followers joiner ps = .ok found) :
    Layout found (ps.map field) (ps.flatMap Predicate.values) ∧ found.opens = true := by
  induction ps generalizing found with
  | nil => cases succeeds; exact ⟨Layout.nil, rfl⟩
  | cons p rest ih =>
      obtain ⟨here, written, succeeds⟩ := exists_ok_of_bind succeeds
      obtain ⟨others, followed, succeeds⟩ := exists_ok_of_bind succeeds
      cases succeeds
      obtain ⟨s, text, plain⟩ := joins p
      have behind := ih followed
      have layout := ((layout_template written).append behind.1 behind.2).text plain
      rw [text]
      exact ⟨by simpa using layout, rfl⟩

/-- A chain takes over the fields and binds the values of its predicates in order. -/
theorem layout_chain {keyword : String} (plain : Template.isPlain keyword = true)
    (joins : IsJoiner joiner) {ps : List Predicate} {found : Template}
    (succeeds : chain keyword joiner ps = .ok found) :
    Layout found (ps.map field) (ps.flatMap Predicate.values) ∧ found.opens = true := by
  cases ps with
  | nil => cases succeeds; exact ⟨Layout.nil, rfl⟩
  | cons p rest =>
      obtain ⟨here, written, succeeds⟩ := exists_ok_of_bind succeeds
      obtain ⟨others, followed, succeeds⟩ := exists_ok_of_bind succeeds
      cases succeeds
      have behind := layout_followers joins followed
      have layout := ((layout_template written).append behind.1 behind.2).text plain
      exact ⟨by simpa using layout, rfl⟩

theorem layout_whereClause {ps : List Predicate} {found : Template}
    (succeeds : whereClause ps = .ok found) :
    Layout found (ps.map field) (ps.flatMap Predicate.values) ∧ found.opens = true :=
  layout_chain (by decide) isJoiner_joiner succeeds

theorem layout_havingClause {ps : List Predicate} {found : Template}
    (succeeds : havingClause ps = .ok found) :
    Layout found (ps.map field) (ps.flatMap Predicate.values) ∧ found.opens = true :=
  layout_chain (by decide) isJoiner_and succeeds

end Predicate

/-! ## Statements -/

namespace Draft

theorem layout_columnList (draft : Draft) : Layout draft.columnList draft.columns [] := by
  unfold columnList
  cases draft.columns with
  | nil => exact Layout.nil.text (by decide)
  | cons name names => exact Layout.fragments (name :: names)

theorem layout_joinClause (join : Join) :
    Layout (joinClause join) join.taken [] ∧ (joinClause join).opens = true := by
  have condition : Layout [.text " ON ", .fragment join.on] [join.on] [] :=
    (Layout.nil.fragment join.on).text (by decide)
  have keyword : Template.isPlain (" " ++ join.kind.sql ++ " ") = true := by
    cases join.kind <;> decide
  refine ⟨?_, rfl⟩
  unfold joinClause Join.taken
  cases join.alias? with
  | none => exact (condition.fragment join.table).text keyword
  | some name =>
      exact (((condition.fragment name).text (by decide)).fragment join.table).text keyword

theorem layout_groupClause (draft : Draft) :
    Layout draft.groupClause draft.groupBy [] ∧ draft.groupClause.opens = true := by
  unfold groupClause
  cases draft.groupBy with
  | nil => exact ⟨Layout.nil, rfl⟩
  | cons name names => exact ⟨(Layout.fragments (name :: names)).text (by decide), rfl⟩

theorem layout_orderClause (draft : Draft) :
    Layout draft.orderClause (draft.orderBy.map OrderBy.field) []
      ∧ draft.orderClause.opens = true := by
  have each : ∀ o : OrderBy,
      Layout [.fragment o.field, .text (" " ++ o.direction.sql)] [o.field] [] := by
    intro o
    exact (Layout.nil.text (by cases o.direction <;> decide)).fragment o.field
  have layout := Layout.commas each draft.orderBy
  rw [Layout.flatMap_nothing, ← List.map_eq_flatMap] at layout
  unfold orderClause
  split
  · rename_i empty
    rw [List.isEmpty_iff.mp empty]
    exact ⟨Layout.nil, rfl⟩
  · exact ⟨layout.text (by decide), rfl⟩

/-- The digits of a number are plain behind a keyword. -/
theorem layout_countClause (keyword : String) (plain : Template.isPlain keyword = true)
    (count : Option Nat) :
    Layout (countClause keyword count) [] [] ∧ (countClause keyword count).opens = true := by
  cases count with
  | none => exact ⟨Layout.nil, rfl⟩
  | some n =>
      refine ⟨Layout.nil.text ?_, rfl⟩
      have noDollar : '$' ∉ Text.ofNat n := fun member =>
        absurd (Nat.isDigit_of_mem_toDigits (by decide) (by decide) member) (by decide)
      cases letters : keyword.toList with
      | nil => simp [Template.isPlain, letters] at plain
      | cons c cs =>
          simp [Template.isPlain, letters] at plain
          simp [Template.isPlain, letters, plain, noDollar]

theorem layout_pageClause (draft : Draft) :
    Layout draft.pageClause [] [] ∧ draft.pageClause.opens = true := by
  have limit := layout_countClause " LIMIT " (by decide) draft.limit
  have offset := layout_countClause " OFFSET " (by decide) draft.offset
  exact ⟨limit.1.append offset.1 offset.2, Template.opens_append limit.2 offset.2⟩

theorem layout_selectTemplate {draft : Draft} {found : Template}
    (succeeds : draft.selectTemplate = .ok found) :
    Layout found
      (draft.columns ++ draft.table :: draft.joins.flatMap Join.taken
        ++ draft.wheres.map Predicate.field ++ draft.groupBy
        ++ draft.having.map Predicate.field ++ draft.orderBy.map OrderBy.field)
      (draft.wheres.flatMap Predicate.values ++ draft.having.flatMap Predicate.values) := by
  obtain ⟨body, written, succeeds⟩ := exists_ok_of_bind succeeds
  obtain ⟨wheres, whereWritten, written⟩ := exists_ok_of_bind written
  obtain ⟨having, havingWritten, written⟩ := exists_ok_of_bind written
  cases succeeds
  cases written
  have joins := Layout.flatMap layout_joinClause draft.joins
  have rows := Predicate.layout_whereClause whereWritten
  have groups := Predicate.layout_havingClause havingWritten
  have source := ((joins.1.fragment draft.table).text (s := " FROM ") (by decide)).append
    rows.1 rows.2
  have grouped := (source.append draft.layout_groupClause.1 draft.layout_groupClause.2).append
    groups.1 groups.2
  have selected := (draft.layout_columnList.append grouped rfl).text (s := "SELECT ") (by decide)
  have sorted := selected.append draft.layout_orderClause.1 draft.layout_orderClause.2
  have paged := sorted.append draft.layout_pageClause.1 draft.layout_pageClause.2
  simpa using paged

theorem layout_insertTemplate {draft : Draft} {found : Template}
    (succeeds : draft.insertTemplate = .ok found) :
    Layout found (draft.table :: draft.insertValues.keys) draft.insertValues.values := by
  unfold insertTemplate at succeeds
  split at succeeds <;> cases succeeds
  have row := ((Layout.values draft.insertValues.values).append
    (Layout.nil.text (s := ")") (by decide)) rfl).text (s := ") VALUES (") (by decide)
  have names := (Layout.fragments draft.insertValues.keys).append row rfl
  have whole := ((names.text (s := " (") (by decide)).fragment draft.table).text
    (s := "INSERT INTO ") (by decide)
  simpa using whole

/-- The assignments take over the columns and bind the values of a payload. -/
theorem layout_assignments (payload : Ordered Value) :
    Layout (Template.commas (payload.entries.map assignment)) payload.keys payload.values := by
  have each : ∀ entry : String × Value, Layout (assignment entry) [entry.1] [entry.2] :=
    fun entry => ((Layout.nil.bound entry.2 rfl).text (by decide)).fragment entry.1
  have layout := Layout.commas each payload.entries
  rwa [← List.map_eq_flatMap, ← List.map_eq_flatMap] at layout

theorem layout_updateTemplate {draft : Draft} {found : Template}
    (succeeds : draft.updateTemplate = .ok found) :
    Layout found (draft.table :: draft.updateValues.keys ++ draft.wheres.map Predicate.field)
      (draft.updateValues.values ++ draft.wheres.flatMap Predicate.values) := by
  unfold updateTemplate at succeeds
  split at succeeds
  · cases succeeds
  · obtain ⟨wheres, whereWritten, succeeds⟩ := exists_ok_of_bind succeeds
    cases succeeds
    have rows := Predicate.layout_whereClause whereWritten
    have whole := ((((layout_assignments draft.updateValues).append rows.1 rows.2).text
      (s := " SET ") (by decide)).fragment draft.table).text (s := "UPDATE ") (by decide)
    simpa using whole

theorem layout_deleteTemplate {draft : Draft} {found : Template}
    (succeeds : draft.deleteTemplate = .ok found) :
    Layout found (draft.table :: draft.wheres.map Predicate.field)
      (draft.wheres.flatMap Predicate.values) := by
  obtain ⟨wheres, whereWritten, succeeds⟩ := exists_ok_of_bind succeeds
  cases succeeds
  have rows := Predicate.layout_whereClause whereWritten
  exact (rows.1.fragment draft.table).text (by decide)

/-- Compiling writes exactly the texts that the kind takes over and the values that it binds. -/
theorem layout_template {draft : Draft} {found : Template} (succeeds : draft.template = .ok found) :
    Layout found draft.taken draft.bound := by
  unfold template at succeeds
  unfold taken bound
  cases kind : draft.kind with
  | none => rw [kind] at succeeds; cases succeeds
  | some chosen =>
      rw [kind] at succeeds
      dsimp only at succeeds
      split at succeeds
      · cases succeeds
      · cases chosen with
        | select => exact layout_selectTemplate succeeds
        | insert => exact layout_insertTemplate succeeds
        | update => exact layout_updateTemplate succeeds
        | delete => exact layout_deleteTemplate succeeds

end Draft
end SqlGate
