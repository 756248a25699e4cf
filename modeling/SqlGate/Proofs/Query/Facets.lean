import SqlGate.Proofs.SameOrder
import SqlGate.Query.Builder

namespace SqlGate

/-!
# The order of calls on a builder

A call on a builder writes one facet of it: the kind with its payload, the
table, one of the clauses, the finished statement, or the fault that is
reported.  A condition belongs to its clause if its operator can be read, and
to the fault if not.  Calls of different facets commute, so that of a whole run
only the order within each facet matters.

Two facets decide whether the others are looked at.  The fault is that of the
first operator that cannot be read, and nothing takes it back; but a finished
statement is returned in any case, and then it is the one given last.
-/

/-- The fault of a text that names no operator; it is quoted without the blanks around it. -/
def CompileFault.ofText (text : String) : CompileFault :=
  .unknownOperator (String.ofList (Text.trim text.toList))

namespace OperatorSource

/-- The text, if it names no operator. -/
def unreadable? : OperatorSource -> Option String
  | .known _ => none
  | .spelled text => if (Operator.parse? text).isNone then some text else none

theorem resolve_of_unreadable {op : OperatorSource} {text : String}
    (unreadable : op.unreadable? = some text) : op.resolve = .error (.ofText text) := by
  cases op with
  | known op => cases unreadable
  | spelled given =>
      cases found : Operator.parse? given with
      | none =>
          have given_eq : given = text := by simpa [unreadable?, found] using unreadable
          rw [resolve, found, given_eq]
          rfl
      | some op => simp [unreadable?, found] at unreadable

theorem exists_resolve_of_readable {op : OperatorSource} (readable : op.unreadable? = none) :
    ∃ known, op.resolve = .ok known := by
  cases op with
  | known op => exact ⟨op, rfl⟩
  | spelled given =>
      cases found : Operator.parse? given with
      | none => simp [unreadable?, found] at readable
      | some op => exact ⟨op, by rw [resolve, found]⟩

end OperatorSource

namespace Call

/-- The parts of a builder that calls write. -/
inductive Facet where
  | kind
  | table
  | columns
  | wheres
  | joins
  | groupBy
  | having
  | orderBy
  | limit
  | offset
  | raw
  | fault
deriving DecidableEq, Repr

def facet : Call -> Facet
  | .select | .delete | .insert _ | .update _ => .kind
  | .columns _ => .columns
  | .table _ => .table
  | .raw _ _ => .raw
  | .condition _ _ op _ =>
      match op.resolve with
      | .ok _ => .wheres
      | .error _ => .fault
  | .having _ op _ =>
      match op.resolve with
      | .ok _ => .having
      | .error _ => .fault
  | .join _ => .joins
  | .groupBy _ => .groupBy
  | .orderBy _ _ => .orderBy
  | .limit _ => .limit
  | .offset _ => .offset

/-- The text given for an operator that names none. -/
def unreadable? : Call -> Option String
  | .condition _ _ op _ | .having _ op _ => op.unreadable?
  | _ => none

def finished? : Call -> Option Statement
  | .raw sql params => some ⟨sql, params⟩
  | _ => none

end Call

namespace Builder

/-! ## Calls that change places -/

section Conditions

variable {connective : Connective} {field : String} {op : OperatorSource} {operand : Operand}
  {known : Operator} {fault : CompileFault}

theorem apply_condition_of_ok (b : Builder) (resolved : op.resolve = .ok known) :
    b.apply (.condition connective field op operand)
      = b.edit fun d => { d with wheres := d.wheres ++ [⟨field, known, operand, connective⟩] } := by
  rw [apply, condition, resolved]

theorem apply_condition_of_error (b : Builder) (resolved : op.resolve = .error fault) :
    b.apply (.condition connective field op operand) = b.reject fault := by
  rw [apply, condition, resolved]

theorem apply_having_of_ok (b : Builder) (resolved : op.resolve = .ok known) :
    b.apply (.having field op operand)
      = b.edit fun d => { d with having := d.having ++ [⟨field, known, operand, .and⟩] } := by
  rw [apply, having, resolved]

theorem apply_having_of_error (b : Builder) (resolved : op.resolve = .error fault) :
    b.apply (.having field op operand) = b.reject fault := by
  rw [apply, having, resolved]

end Conditions

/-- A rejection changes places with every call that is not rejected. -/
theorem apply_reject (b : Builder) (fault : CompileFault) (call : Call)
    (readable : call.facet ≠ .fault) : (b.reject fault).apply call = (b.apply call).reject fault := by
  cases call with
  | condition connective field op operand =>
      cases resolved : op.resolve with
      | ok known => rw [apply_condition_of_ok _ resolved, apply_condition_of_ok _ resolved]; rfl
      | error other => exact absurd (by rw [Call.facet, resolved]) readable
  | having field op operand =>
      cases resolved : op.resolve with
      | ok known => rw [apply_having_of_ok _ resolved, apply_having_of_ok _ resolved]; rfl
      | error other => exact absurd (by rw [Call.facet, resolved]) readable
  | _ => rfl

/-- A condition on rows changes places with every call that adds none. -/
theorem apply_addWhere (b : Builder) (p : Predicate) (call : Call) (other : call.facet ≠ .wheres) :
    (b.edit fun d => { d with wheres := d.wheres ++ [p] }).apply call
      = (b.apply call).edit fun d => { d with wheres := d.wheres ++ [p] } := by
  cases call with
  | condition connective field op operand =>
      cases resolved : op.resolve with
      | ok known => exact absurd (by rw [Call.facet, resolved]) other
      | error fault =>
          rw [apply_condition_of_error _ resolved, apply_condition_of_error _ resolved]
          rfl
  | having field op operand =>
      cases resolved : op.resolve with
      | ok known => rw [apply_having_of_ok _ resolved, apply_having_of_ok _ resolved]; rfl
      | error fault => rw [apply_having_of_error _ resolved, apply_having_of_error _ resolved]; rfl
  | _ => rfl

/-- A condition on groups changes places with every call that adds none. -/
theorem apply_addHaving (b : Builder) (p : Predicate) (call : Call) (other : call.facet ≠ .having) :
    (b.edit fun d => { d with having := d.having ++ [p] }).apply call
      = (b.apply call).edit fun d => { d with having := d.having ++ [p] } := by
  cases call with
  | condition connective field op operand =>
      cases resolved : op.resolve with
      | ok known => rw [apply_condition_of_ok _ resolved, apply_condition_of_ok _ resolved]; rfl
      | error fault =>
          rw [apply_condition_of_error _ resolved, apply_condition_of_error _ resolved]
          rfl
  | having field op operand =>
      cases resolved : op.resolve with
      | ok known => exact absurd (by rw [Call.facet, resolved]) other
      | error fault => rw [apply_having_of_error _ resolved, apply_having_of_error _ resolved]; rfl
  | _ => rfl

theorem condition_comm (b : Builder) (connective : Connective) (field : String)
    (op : OperatorSource) (operand : Operand) (second : Call)
    (apart : (Call.condition connective field op operand).facet ≠ second.facet) :
    (b.apply (.condition connective field op operand)).apply second
      = (b.apply second).apply (.condition connective field op operand) := by
  cases resolved : op.resolve with
  | ok known =>
      rw [Call.facet, resolved] at apart
      rw [apply_condition_of_ok _ resolved, apply_condition_of_ok _ resolved]
      exact apply_addWhere b _ second apart.symm
  | error fault =>
      rw [Call.facet, resolved] at apart
      rw [apply_condition_of_error _ resolved, apply_condition_of_error _ resolved]
      exact apply_reject b fault second apart.symm

theorem having_comm (b : Builder) (field : String) (op : OperatorSource) (operand : Operand)
    (second : Call) (apart : (Call.having field op operand).facet ≠ second.facet) :
    (b.apply (.having field op operand)).apply second
      = (b.apply second).apply (.having field op operand) := by
  cases resolved : op.resolve with
  | ok known =>
      rw [Call.facet, resolved] at apart
      rw [apply_having_of_ok _ resolved, apply_having_of_ok _ resolved]
      exact apply_addHaving b _ second apart.symm
  | error fault =>
      rw [Call.facet, resolved] at apart
      rw [apply_having_of_error _ resolved, apply_having_of_error _ resolved]
      exact apply_reject b fault second apart.symm

/-- Calls of different facets change places. -/
theorem apply_comm (b : Builder) (first second : Call) (apart : first.facet ≠ second.facet) :
    (b.apply first).apply second = (b.apply second).apply first := by
  cases first with
  | condition connective field op operand => exact condition_comm b _ _ _ _ second apart
  | having field op operand => exact having_comm b _ _ _ second apart
  | _ =>
      cases second with
      | condition connective field op operand => exact (condition_comm b _ _ _ _ _ apart.symm).symm
      | having field op operand => exact (having_comm b _ _ _ _ apart.symm).symm
      -- All other calls write a field of their own, or share the facet.
      | _ => first | rfl | exact absurd rfl apart

/-- Calls that come in the same order within each facet make the same builder. -/
theorem applyAll_eq_of_sameOrder {calls others : List Call}
    (same : SameOrder Call.facet calls others) (b : Builder) :
    b.applyAll calls = b.applyAll others :=
  same.foldl_eq apply_comm b

/-! ## Finished statements and faults -/

theorem applyAll_cons (b : Builder) (call : Call) (rest : List Call) :
    b.applyAll (call :: rest) = (b.apply call).applyAll rest :=
  rfl

/-- A call gives its own finished statement, or else leaves the one that is there. -/
theorem raw_apply (b : Builder) (call : Call) : (b.apply call).raw = call.finished?.or b.raw := by
  cases call with
  | condition connective field op operand =>
      simp only [apply, condition]
      split <;> rfl
  | having field op operand =>
      simp only [apply, having]
      split <;> rfl
  | _ => rfl

/-- After a run of calls, the finished statement is the one given last. -/
theorem raw_applyAll (b : Builder) (calls : List Call) :
    (b.applyAll calls).raw = (calls.filterMap Call.finished?).getLast?.or b.raw := by
  induction calls generalizing b with
  | nil => rfl
  | cons call rest ih =>
      rw [applyAll_cons, ih, raw_apply]
      cases given : call.finished? with
      | none => rw [List.filterMap_cons_none given, Option.none_or]
      | some statement =>
          rw [List.filterMap_cons_some given, List.getLast?_cons]
          cases (rest.filterMap Call.finished?).getLast? <;> rfl

/-- A call leaves the fault that is there, or else its own. -/
theorem fault_apply (b : Builder) (call : Call) :
    (b.apply call).fault = b.fault.or (call.unreadable?.map CompileFault.ofText) := by
  cases call with
  | condition connective field op operand =>
      change (b.condition connective field op operand).fault
        = b.fault.or (op.unreadable?.map CompileFault.ofText)
      cases given : op.unreadable? with
      | none =>
          obtain ⟨known, resolved⟩ := OperatorSource.exists_resolve_of_readable given
          simp [condition, resolved, edit]
      | some text =>
          simp [condition, OperatorSource.resolve_of_unreadable given, reject]
  | having field op operand =>
      change (b.having field op operand).fault
        = b.fault.or (op.unreadable?.map CompileFault.ofText)
      cases given : op.unreadable? with
      | none =>
          obtain ⟨known, resolved⟩ := OperatorSource.exists_resolve_of_readable given
          simp [having, resolved, edit]
      | some text =>
          simp [having, OperatorSource.resolve_of_unreadable given, reject]
  | _ => exact Option.or_none.symm

/-- After a run of calls, the fault is the one that was there, or else that of the first text
that named no operator. -/
theorem fault_applyAll (b : Builder) (calls : List Call) :
    (b.applyAll calls).fault
      = b.fault.or ((calls.findSome? Call.unreadable?).map CompileFault.ofText) := by
  induction calls generalizing b with
  | nil => exact Option.or_none.symm
  | cons call rest ih =>
      rw [applyAll_cons, ih, fault_apply, List.findSome?_cons]
      cases call.unreadable? with
      | none => rw [Option.map_none, Option.or_none]
      | some text => cases b.fault <;> rfl

/-! ## What a run of calls is compiled to -/

theorem build_of_raw {b : Builder} {statement : Statement} (given : b.raw = some statement) :
    b.build = .ok statement := by
  rw [build, given]

theorem build_of_fault {b : Builder} {fault : CompileFault} (drafted : b.raw = none)
    (faulty : b.fault = some fault) : b.build = .error fault := by
  rw [build, drafted, faulty]

theorem buildCount_of_fault {b : Builder} {fault : CompileFault} (drafted : b.raw = none)
    (faulty : b.fault = some fault) (counts : b.draft.kind = none ∨ b.draft.kind = some .select) :
    b.buildCount = .error fault := by
  have noOther : b.isOtherKind = false := by
    rcases counts with unset | selects
    · rw [isOtherKind, unset]
      rfl
    · rw [isOtherKind, selects]
      rfl
  rw [buildCount, noOther, Bool.and_false, if_neg Bool.false_ne_true]
  exact build_of_fault drafted faulty

theorem buildCount_of_otherKind {b : Builder} {kind : StatementKind} (drafted : b.raw = none)
    (chosen : b.draft.kind = some kind) (other : kind ≠ .select) :
    b.buildCount = .error .countNeedsSelect := by
  have isOther : b.isOtherKind = true := by
    rw [isOtherKind, chosen]
    simpa using other
  rw [buildCount, drafted, isOther]
  rfl

/-- What a builder means depends only on the calls of each facet, in their order.  Calls that
come in the same order within each facet make the same draft and the same three statements or
faults.  Without a finished statement, the first text that names no operator is reported by all
three, only that a count of something other than a selection is refused before; with one, the
last finished statement is what is built, whatever else was called. -/
theorem build_of_histories (name : String) (calls : List Call) :
    (∀ others, SameOrder Call.facet calls others ->
      ((new name).applyAll others).draft = ((new name).applyAll calls).draft
        ∧ ((new name).applyAll others).build = ((new name).applyAll calls).build
        ∧ ((new name).applyAll others).buildOne = ((new name).applyAll calls).buildOne
        ∧ ((new name).applyAll others).buildCount = ((new name).applyAll calls).buildCount)
    ∧ (∀ text, calls.filterMap Call.finished? = [] ->
        calls.findSome? Call.unreadable? = some text ->
        ((new name).applyAll calls).build = .error (.ofText text)
        ∧ ((new name).applyAll calls).buildOne = .error (.ofText text)
        ∧ (((new name).applyAll calls).draft.kind = none
            ∨ ((new name).applyAll calls).draft.kind = some .select ->
          ((new name).applyAll calls).buildCount = .error (.ofText text))
        ∧ (∀ kind, ((new name).applyAll calls).draft.kind = some kind -> kind ≠ .select ->
          ((new name).applyAll calls).buildCount = .error .countNeedsSelect)
        ∧ (CompileFault.ofText text).toFailure
            = .compile ("Unsupported operator '" ++ String.ofList (Text.trim text.toList) ++ "'"))
    ∧ ∀ statement, (calls.filterMap Call.finished?).getLast? = some statement ->
        ((new name).applyAll calls).build = .ok statement
        ∧ ((new name).applyAll calls).buildOne = .ok statement := by
  refine ⟨?_, ?_, ?_⟩
  · intro others same
    have alike := applyAll_eq_of_sameOrder same (new name)
    rw [alike]
    exact ⟨rfl, rfl, rfl, rfl⟩
  · intro text unfinished unreadable
    have drafted : ((new name).applyAll calls).raw = none := by
      rw [raw_applyAll, unfinished]
      rfl
    have faulty : ((new name).applyAll calls).fault = some (.ofText text) := by
      rw [fault_applyAll, unreadable]
      rfl
    have oneFaulty : (((new name).applyAll calls).limit 1).build = .error (.ofText text) :=
      build_of_fault drafted faulty
    exact ⟨build_of_fault drafted faulty, oneFaulty, buildCount_of_fault drafted faulty,
      fun kind => buildCount_of_otherKind drafted, rfl⟩
  · intro statement last
    have given : ((new name).applyAll calls).raw = some statement := by
      rw [raw_applyAll, last]
      rfl
    have oneGiven : (((new name).applyAll calls).limit 1).build = .ok statement :=
      build_of_raw given
    exact ⟨build_of_raw given, oneGiven⟩

/-- A count of the rows of one city, with two texts that name no operator among its calls: the
two are told apart by their order, the others may come as they like; and a finished statement
makes up for both. -/
theorem build_of_histories_twoUnreadable :
    ((new "t").applyAll [.having "n" (.spelled " ~ ") .none, .limit 3,
        .condition .and "city" (.spelled "=>") (.scalar (.text "LAX")), .select]).buildCount
      = .error (.unknownOperator "~")
    ∧ ((new "t").applyAll [.select, .having "n" (.spelled " ~ ") .none,
        .condition .and "city" (.spelled "=>") (.scalar (.text "LAX")), .limit 3]).build
      = .error (.unknownOperator "~")
    ∧ ((new "t").applyAll [.raw "SELECT 1" [], .having "n" (.spelled " ~ ") .none,
        .raw "SELECT 2" [], .delete]).build
      = .ok ⟨"SELECT 2", []⟩ := by
  have quoted : CompileFault.ofText " ~ " = .unknownOperator "~" := by decide
  have unordered := build_of_histories "t" [.select, .having "n" (.spelled " ~ ") .none,
    .condition .and "city" (.spelled "=>") (.scalar (.text "LAX")), .limit 3]
  have finished := build_of_histories "t" [.raw "SELECT 1" [], .having "n" (.spelled " ~ ") .none,
    .raw "SELECT 2" [], .delete]
  obtain ⟨moved, reported, -⟩ := unordered
  obtain ⟨built, -, counted, -, -⟩ := reported " ~ " (by decide) (by decide)
  refine ⟨?_, ?_, ?_⟩
  · rw [← quoted, ← counted (.inr (by decide))]
    refine (moved _ ?_).2.2.2
    intro g
    cases g <;> decide
  · rw [← quoted]
    exact built
  · exact (finished.2.2 _ (by decide)).1

end Builder
end SqlGate
