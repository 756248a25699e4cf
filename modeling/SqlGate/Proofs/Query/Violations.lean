import SqlGate.Proofs.Success
import SqlGate.Query.Compile

namespace SqlGate

/-!
# The first violated condition

Compiling stops at the first thing that is wrong with a draft.  What can be
wrong is said here without the clauses: a kind and a table are needed, a payload
where the kind has one, and for every predicate that the kind renders an operand
that its operator takes.  The order of these conditions, and of the predicates
among each other, is a matter of a relation between drafts and faults.

Compiling is then compared with that relation.  Each clause is followed only for
the fault that it ends with: of two clauses behind one another it is that of the
first one, or else that of the second, so that a chain of predicates ends with the
fault of the first predicate that has one.
-/

/-! ## What is asked of a draft -/

/-- Whether an operator takes an operand: a test for null takes whatever is there, `IN` and
`NOT IN` take a value or a list that is not empty, and every other operator takes one value. -/
def Operator.accepts : Operator -> Operand -> Bool
  | .isNull, _ | .isNotNull, _ => true
  | .isIn, .scalar _ | .notIn, .scalar _ => true
  | .isIn, .list values | .notIn, .list values => !values.isEmpty
  | .eq, .scalar _ | .notEq, .scalar _ | .gt, .scalar _ | .gte, .scalar _ | .lt, .scalar _
  | .lte, .scalar _ | .like, .scalar _ | .ilike, .scalar _ => true
  | _, _ => false

namespace Predicate

/-- Whether the operand is one that the operator takes. -/
def isOperanded (p : Predicate) : Bool :=
  p.operator.accepts p.operand

/-- How an operand that the operator does not take is reported. -/
def refusal (p : Predicate) : CompileFault :=
  match p.operator, p.operand with
  | .isIn, .list _ | .notIn, .list _ => .emptyList p.operator p.field
  | _, .list _ => .listRefused p.operator p.field
  | _, _ => .operandMissing p.operator p.field

/-- The fault of a predicate, if its operand is none that the operator takes. -/
def fault? (p : Predicate) : Option CompileFault :=
  if p.isOperanded then none else some p.refusal

end Predicate

namespace Draft

/-- The predicates that a statement of the draft's kind renders, in order. -/
def rendered (draft : Draft) : List Predicate :=
  match draft.kind with
  | some .select => draft.wheres ++ draft.having
  | some .update | some .delete => draft.wheres
  | some .insert | none => []

/-- Whether there is a payload where the kind has one. -/
def hasPayload (draft : Draft) : Prop :=
  (draft.kind = some .insert -> draft.insertValues.entries ≠ [])
    ∧ (draft.kind = some .update -> draft.updateValues.entries ≠ [])

/-- The first condition that a draft violates, by its fault.  Each case has those before it
fulfilled. -/
inductive Violates (draft : Draft) : CompileFault -> Prop where
  /-- No kind was chosen. -/
  | kind (unset : draft.kind = none) : Violates draft .noKind
  | table (chosen : draft.kind ≠ none) (blank : Text.isBlankText draft.table = true) :
      Violates draft .noTable
  /-- There is nothing to insert. -/
  | insertion (chosen : draft.kind = some .insert) (named : Text.isBlankText draft.table = false)
      (empty : draft.insertValues.entries = []) : Violates draft .nothingToInsert
  /-- There is nothing to set. -/
  | update (chosen : draft.kind = some .update) (named : Text.isBlankText draft.table = false)
      (empty : draft.updateValues.entries = []) : Violates draft .nothingToUpdate
  /-- A predicate has no operand that its operator takes, and all rendered before it have one. -/
  | predicate (front behind : List Predicate) (p : Predicate) (chosen : draft.kind ≠ none)
      (named : Text.isBlankText draft.table = false) (payload : draft.hasPayload)
      (place : draft.rendered = front ++ p :: behind)
      (before : ∀ q ∈ front, q.isOperanded = true) (refused : p.isOperanded = false) :
      Violates draft p.refusal

/-- What is asked of a draft to be compiled. -/
structure Compilable (draft : Draft) : Prop where
  chosen : draft.kind ≠ none
  /-- The table is not blank. -/
  named : Text.isBlankText draft.table = false
  /-- There is a payload where the kind has one. -/
  payload : draft.hasPayload
  /-- Every predicate that is rendered has an operand that its operator takes. -/
  operanded : ∀ p ∈ draft.rendered, p.isOperanded = true

end Draft

/-! ## The fault of a clause -/

section

variable {ε α β : Type}

/-- The fault that a computation ends with. -/
def faultOf : Except ε α -> Option ε
  | .error fault => some fault
  | .ok _ => none

/-- Of two steps the fault is that of the first, or else that of the second, if that does not
depend on what the first one made. -/
theorem faultOf_bind {first : Except ε α} {second : α -> Except ε β} (later : Option ε)
    (same : ∀ a, faultOf (second a) = later) :
    faultOf (first >>= second) = (faultOf first).or later := by
  cases first with
  | error fault => rfl
  | ok a => exact same a

theorem faultOf_map (computed : Except ε α) (change : α -> β) :
    faultOf (computed.map change) = faultOf computed := by
  cases computed <;> rfl

theorem faultOf_eq_some_iff {computed : Except ε α} {fault : ε} :
    faultOf computed = some fault ↔ computed = .error fault := by
  cases computed <;> simp [faultOf]

theorem faultOf_eq_none_iff {computed : Except ε α} :
    faultOf computed = none ↔ ∃ a, computed = .ok a := by
  cases computed <;> simp [faultOf]

end

/-- The table of operands goes by the two classes of operators that are compiled apart. -/
theorem Operator.accepts_eq (op : Operator) (operand : Operand) :
    op.accepts operand
      = match operand with
        | .none => op.isUnary
        | .scalar _ => true
        | .list values => op.isUnary || op.isMembership && !values.isEmpty := by
  cases operand with
  | none => cases op <;> rfl
  | scalar _ => cases op <;> rfl
  | list values => cases op <;> rfl

namespace Predicate

theorem refusal_eq (p : Predicate) :
    p.refusal
      = match p.operand with
        | .list _ =>
            if p.operator.isMembership then .emptyList p.operator p.field
            else .listRefused p.operator p.field
        | _ => .operandMissing p.operator p.field := by
  rcases p with ⟨field, op, operand, connective⟩
  cases operand with
  | none => cases op <;> rfl
  | scalar _ => cases op <;> rfl
  | list values => cases op <;> rfl

theorem faultOf_template (p : Predicate) : faultOf p.template = p.fault? := by
  rw [fault?, isOperanded, Operator.accepts_eq, refusal_eq]
  rcases p with ⟨field, op, operand, connective⟩
  unfold template
  split
  · rename_i unary
    cases operand <;> simp_all [faultOf]
  · rename_i binary
    rw [faultOf_map]
    cases operand with
    | none => simp_all [rightSide, faultOf]
    | scalar v => cases member : op.isMembership <;> simp [rightSide, faultOf, member]
    | list vs =>
        cases member : op.isMembership <;> cases vs <;> simp_all [rightSide, faultOf]

variable (joiner : Predicate -> Template)

theorem faultOf_followers (ps : List Predicate) :
    faultOf (followers joiner ps) = ps.findSome? fault? := by
  induction ps with
  | nil => rfl
  | cons p rest ih =>
      rw [followers, faultOf_bind (rest.findSome? fault?), faultOf_template,
        List.findSome?_cons]
      · cases p.fault? <;> rfl
      · intro here
        rw [bind_pure_eq_map, faultOf_map, ih]

/-- A chain ends with the fault of its first predicate that has one. -/
theorem faultOf_chain (keyword : String) (ps : List Predicate) :
    faultOf (chain keyword joiner ps) = ps.findSome? fault? := by
  cases ps with
  | nil => rfl
  | cons p rest =>
      rw [chain, faultOf_bind (rest.findSome? fault?), faultOf_template,
        List.findSome?_cons]
      · cases p.fault? <;> rfl
      · intro here
        rw [bind_pure_eq_map, faultOf_map, faultOf_followers]

theorem fault?_eq_none_iff {p : Predicate} : p.fault? = none ↔ p.isOperanded = true := by
  simp [fault?]

theorem fault?_eq_some_iff {p : Predicate} {fault : CompileFault} :
    p.fault? = some fault ↔ p.isOperanded = false ∧ p.refusal = fault := by
  simp [fault?]

end Predicate

namespace Draft

/-! ## The fault of a statement -/

variable {draft : Draft}

theorem faultOf_selectTemplate (draft : Draft) :
    faultOf draft.selectTemplate = (draft.wheres ++ draft.having).findSome? Predicate.fault? := by
  have body : faultOf draft.selectBody
      = (draft.wheres ++ draft.having).findSome? Predicate.fault? := by
    rw [selectBody, faultOf_bind (draft.having.findSome? Predicate.fault?),
      Predicate.whereClause, Predicate.faultOf_chain, List.findSome?_append]
    intro wheres
    rw [bind_pure_eq_map, faultOf_map, Predicate.havingClause, Predicate.faultOf_chain]
  rw [selectTemplate, bind_pure_eq_map, faultOf_map, body]

theorem faultOf_updateTemplate (nonempty : draft.updateValues.entries ≠ []) :
    faultOf draft.updateTemplate = draft.wheres.findSome? Predicate.fault? := by
  have there : draft.updateValues.isEmpty = false := by simpa [Ordered.isEmpty] using nonempty
  rw [updateTemplate, there, if_neg Bool.false_ne_true, bind_pure_eq_map, faultOf_map,
    Predicate.whereClause, Predicate.faultOf_chain]

theorem faultOf_deleteTemplate (draft : Draft) :
    faultOf draft.deleteTemplate = draft.wheres.findSome? Predicate.fault? := by
  rw [deleteTemplate, bind_pure_eq_map, faultOf_map, Predicate.whereClause,
    Predicate.faultOf_chain]

theorem faultOf_insertTemplate (nonempty : draft.insertValues.entries ≠ []) :
    faultOf draft.insertTemplate = none := by
  have there : draft.insertValues.isEmpty = false := by simpa [Ordered.isEmpty] using nonempty
  rw [insertTemplate, there, if_neg Bool.false_ne_true]
  rfl

theorem faultOf_compile (draft : Draft) : faultOf draft.compile = faultOf draft.template :=
  faultOf_map draft.template Template.statement

theorem faultOf_compile_of_unset (unset : draft.kind = none) :
    faultOf draft.compile = some .noKind := by
  rw [faultOf_compile, template, unset]
  rfl

theorem faultOf_compile_of_blank (chosen : draft.kind ≠ none)
    (blank : Text.isBlankText draft.table = true) : faultOf draft.compile = some .noTable := by
  obtain ⟨kind, given⟩ := Option.ne_none_iff_exists'.mp chosen
  rw [faultOf_compile, template, given]
  dsimp only
  rw [if_pos blank]
  rfl

theorem faultOf_compile_of_emptyInsertion (chosen : draft.kind = some .insert)
    (named : Text.isBlankText draft.table = false) (empty : draft.insertValues.entries = []) :
    faultOf draft.compile = some .nothingToInsert := by
  rw [faultOf_compile, template, chosen]
  dsimp only
  rw [named, if_neg Bool.false_ne_true, insertTemplate, Ordered.isEmpty, empty]
  rfl

theorem faultOf_compile_of_emptyUpdate (chosen : draft.kind = some .update)
    (named : Text.isBlankText draft.table = false) (empty : draft.updateValues.entries = []) :
    faultOf draft.compile = some .nothingToUpdate := by
  rw [faultOf_compile, template, chosen]
  dsimp only
  rw [named, if_neg Bool.false_ne_true, updateTemplate, Ordered.isEmpty, empty]
  rfl

/-- Once kind, table and payload are given, only the rendered predicates are left to fail. -/
theorem faultOf_compile_of_payload (chosen : draft.kind ≠ none)
    (named : Text.isBlankText draft.table = false) (payload : draft.hasPayload) :
    faultOf draft.compile = draft.rendered.findSome? Predicate.fault? := by
  obtain ⟨kind, given⟩ := Option.ne_none_iff_exists'.mp chosen
  rw [faultOf_compile, template, rendered, given]
  dsimp only
  rw [named, if_neg Bool.false_ne_true]
  cases kind with
  | select => exact faultOf_selectTemplate draft
  | insert => exact faultOf_insertTemplate (payload.1 given)
  | update => exact faultOf_updateTemplate (payload.2 given)
  | delete => exact faultOf_deleteTemplate draft

/-- What a draft violates is the fault that compiling ends with. -/
theorem Violates.faultOf_compile {fault : CompileFault} (violates : draft.Violates fault) :
    faultOf draft.compile = some fault := by
  cases violates with
  | kind unset => exact faultOf_compile_of_unset unset
  | table chosen blank => exact faultOf_compile_of_blank chosen blank
  | insertion chosen named empty => exact faultOf_compile_of_emptyInsertion chosen named empty
  | update chosen named empty => exact faultOf_compile_of_emptyUpdate chosen named empty
  | predicate front behind p chosen named payload place before refused =>
      rw [faultOf_compile_of_payload chosen named payload, place]
      refine List.findSome?_eq_some_iff.mpr ⟨front, p, behind, rfl, ?_, ?_⟩
      · exact Predicate.fault?_eq_some_iff.mpr ⟨refused, rfl⟩
      · exact fun q member => Predicate.fault?_eq_none_iff.mpr (before q member)

theorem Compilable.faultOf_compile (compilable : draft.Compilable) :
    faultOf draft.compile = none := by
  rw [faultOf_compile_of_payload compilable.chosen compilable.named compilable.payload]
  refine List.findSome?_eq_none_iff.mpr ?_
  intro p member
  exact Predicate.fault?_eq_none_iff.mpr (compilable.operanded p member)

/-- A draft fulfils all conditions, or there is a first one that it violates. -/
theorem compilable_or_violates (draft : Draft) :
    draft.Compilable ∨ ∃ fault, draft.Violates fault := by
  by_cases unset : draft.kind = none
  · exact .inr ⟨_, .kind unset⟩
  by_cases blank : Text.isBlankText draft.table = true
  · exact .inr ⟨_, .table unset blank⟩
  have named : Text.isBlankText draft.table = false := Bool.not_eq_true _ ▸ blank
  by_cases insertion : draft.kind = some .insert ∧ draft.insertValues.entries = []
  · exact .inr ⟨_, .insertion insertion.1 named insertion.2⟩
  by_cases update : draft.kind = some .update ∧ draft.updateValues.entries = []
  · exact .inr ⟨_, .update update.1 named update.2⟩
  have payload : draft.hasPayload :=
    ⟨fun chosen empty => insertion ⟨chosen, empty⟩, fun chosen empty => update ⟨chosen, empty⟩⟩
  cases found : draft.rendered.findSome? Predicate.fault? with
  | none =>
      have without := List.findSome?_eq_none_iff.mp found
      exact .inl ⟨unset, named, payload,
        fun p member => Predicate.fault?_eq_none_iff.mp (without p member)⟩
  | some fault =>
      obtain ⟨front, p, behind, place, refused, before⟩ := List.findSome?_eq_some_iff.mp found
      exact .inr ⟨_, .predicate front behind p unset named payload place
        (fun q member => Predicate.fault?_eq_none_iff.mp (before q member))
        (Predicate.fault?_eq_some_iff.mp refused).1⟩

/-- Which drafts have a statement, and how the others are refused.  A draft compiles exactly if a
kind was chosen, the table is not blank, the payload of an insertion or update is not empty, and
every predicate that the kind renders has an operand that its operator takes.  Otherwise the fault
is that of the first of these conditions that is violated, the predicates taken in the order in
which they are rendered, and the caller is told of it as a failure of compiling. -/
theorem compile_eq_error_iff_violates (draft : Draft) :
    ((∃ statement, draft.compile = .ok statement) ↔ draft.Compilable)
    ∧ (∀ fault, draft.compile = .error fault ↔ draft.Violates fault)
    ∧ ∀ failure, draft.compile.mapError CompileFault.toFailure = .error failure ↔
        ∃ fault, draft.Violates fault ∧ failure = .compile fault.message := by
  have refused : ∀ fault, draft.compile = .error fault ↔ draft.Violates fault := by
    intro fault
    rw [← faultOf_eq_some_iff]
    refine ⟨fun fails => ?_, Violates.faultOf_compile⟩
    rcases draft.compilable_or_violates with compilable | ⟨first, violates⟩
    · rw [compilable.faultOf_compile] at fails
      cases fails
    · rw [violates.faultOf_compile] at fails
      rwa [← Option.some.inj fails]
  refine ⟨?_, refused, ?_⟩
  · rw [← faultOf_eq_none_iff]
    refine ⟨fun succeeds => ?_, Compilable.faultOf_compile⟩
    refine draft.compilable_or_violates.resolve_right ?_
    rintro ⟨fault, violates⟩
    rw [violates.faultOf_compile] at succeeds
    cases succeeds
  · intro failure
    simp only [← refused]
    cases draft.compile with
    | ok statement =>
        constructor
        · intro fails
          cases fails
        · rintro ⟨fault, fails, -⟩
          cases fails
    | error fault =>
        constructor
        · intro fails
          cases fails
          exact ⟨fault, rfl, rfl⟩
        · rintro ⟨other, fails, rfl⟩
          cases fails
          rfl

/-- An update that carries an empty insertion and a condition on groups that no operator takes.
Of its conditions on rows the second and the third have no operand that they take. -/
def gateChange : Draft where
  kind := some .update
  table := "t"
  updateValues := Ordered.ofList [("gate", .text "B7")]
  wheres := [⟨"a", .isNull, .list [], .and⟩, ⟨"b", .isIn, .list [], .or⟩, ⟨"c", .eq, .none, .and⟩]
  having := [⟨"d", .eq, .none, .and⟩]

/-- Neither the insertion nor the groups are rendered, and the first condition that fails is
reported; the update is compiled when only conditions remain that have their operands. -/
theorem compile_gateChange :
    gateChange.compile = .error (.emptyList .isIn "b")
      ∧ ∃ statement, { gateChange with wheres := [⟨"a", .isNull, .list [], .and⟩,
          ⟨"b", .notIn, .scalar (.int 7), .or⟩] }.compile = .ok statement := by
  constructor
  · have violates : gateChange.Violates (.emptyList .isIn "b") :=
      .predicate [⟨"a", .isNull, .list [], .and⟩] [⟨"c", .eq, .none, .and⟩]
        ⟨"b", .isIn, .list [], .or⟩ nofun rfl ⟨nofun, nofun⟩ rfl (by decide) rfl
    exact ((compile_eq_error_iff_violates gateChange).2.1 _).mpr violates
  · apply (compile_eq_error_iff_violates _).1.mpr
    exact ⟨nofun, rfl, ⟨nofun, nofun⟩, by decide⟩

end Draft
end SqlGate
