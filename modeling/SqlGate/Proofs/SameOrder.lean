import SqlGate.Ordered

namespace SqlGate

/-!
# Histories that differ in order

Calls often fall into groups that write different parts of a state.  Two
histories of calls have the same order within the groups if each group comes
with the same calls in the same order in both of them; between the groups,
calls may have changed places in any way.

Such histories come to the same in two ways.  What only one group contributes
is contributed in the same order; this needs no state.  And where calls of
different groups commute as steps on a state, both histories lead to the same
state.
-/

variable {α β γ : Type} [DecidableEq γ] {group : α -> γ} {first second : List α}

/-- Both histories have the calls of every group in the same order. -/
def SameOrder (group : α -> γ) (first second : List α) : Prop :=
  ∀ g, first.filter (fun call => decide (group call = g))
    = second.filter fun call => decide (group call = g)

namespace SameOrder

theorem symm (same : SameOrder group first second) : SameOrder group second first :=
  fun g => (same g).symm

/-- Whatever happens in one history happens in the other. -/
theorem mem (same : SameOrder group first second) {call : α} (member : call ∈ first) :
    call ∈ second := by
  have kept : call ∈ first.filter fun other => decide (group other = group call) :=
    List.mem_filter.mpr ⟨member, by simp⟩
  rw [same (group call)] at kept
  exact (List.mem_filter.mp kept).1

/-- What only one group contributes is contributed in the same order. -/
theorem filterMap_eq (same : SameOrder group first second) (g : γ) {part : α -> Option β}
    (only : ∀ call, group call ≠ g -> part call = none) :
    first.filterMap part = second.filterMap part := by
  have narrowed : ∀ history : List α,
      (history.filter fun call => decide (group call = g)).filterMap part
        = history.filterMap part := by
    intro history
    rw [List.filterMap_filter]
    refine congrArg (List.filterMap · history) (funext ?_)
    intro call
    by_cases own : group call = g
    · simp [own]
    · simp [own, only call own]
  rw [← narrowed first, same g, narrowed second]

section

variable {σ : Type} {step : σ -> α -> σ}

/-- A call that commutes with all calls in front of it may come first. -/
theorem foldl_cons_of_commute {front : List α} {call : α}
    (commute : ∀ s, ∀ earlier ∈ front, step (step s earlier) call = step (step s call) earlier)
    (s : σ) : step (front.foldl step s) call = front.foldl step (step s call) := by
  induction front generalizing s with
  | nil => rfl
  | cons earlier rest ih =>
      have later := ih (fun s other member => commute s other (List.mem_cons_of_mem _ member))
      rw [List.foldl_cons, List.foldl_cons, later, commute s earlier List.mem_cons_self]

/-- The call that comes first in one history can be taken out of the other one: the calls in
front of it are of other groups. -/
theorem exists_of_cons {call : α} {rest : List α} (same : SameOrder group (call :: rest) second) :
    ∃ front behind, second = front ++ call :: behind
      ∧ (∀ earlier ∈ front, group earlier ≠ group call)
      ∧ SameOrder group rest (front ++ behind) := by
  have own := same (group call)
  rw [List.filter_cons_of_pos (by simp)] at own
  obtain ⟨front, behind, placed, others, -, -⟩ := List.filter_eq_cons_iff.mp own.symm
  have apart : ∀ earlier ∈ front, group earlier ≠ group call := by
    intro earlier member
    simpa using others earlier member
  refine ⟨front, behind, placed, apart, ?_⟩
  intro g
  have whole := same g
  rw [placed, List.filter_append] at whole
  rw [List.filter_append]
  by_cases ofGroup : group call = g
  · have none : front.filter (fun call => decide (group call = g)) = [] := by
      refine List.filter_eq_nil_iff.mpr ?_
      intro earlier member
      simpa [← ofGroup] using apart earlier member
    rw [none, List.nil_append, List.filter_cons_of_pos (by simpa using ofGroup),
      List.filter_cons_of_pos (by simpa using ofGroup)] at whole
    rw [none, List.nil_append]
    exact (List.cons.inj whole).2
  · rwa [List.filter_cons_of_neg (by simpa using ofGroup),
      List.filter_cons_of_neg (by simpa using ofGroup)] at whole

/-- If calls of different groups commute, histories of the same order lead to the same state. -/
theorem foldl_eq (commute : ∀ s a b, group a ≠ group b -> step (step s a) b = step (step s b) a)
    (same : SameOrder group first second) (s : σ) : first.foldl step s = second.foldl step s := by
  induction first generalizing second s with
  | nil =>
      have none : second = [] := List.eq_nil_iff_forall_not_mem.mpr fun call member =>
        List.not_mem_nil (same.symm.mem member)
      rw [none]
  | cons call rest ih =>
      -- The first call is moved to the front of the other history; the rest is of the same order.
      obtain ⟨front, behind, placed, apart, others⟩ := same.exists_of_cons
      have moved := foldl_cons_of_commute
        (fun s earlier member => commute s earlier call (apart earlier member)) s
      calc
        (call :: rest).foldl step s = (front ++ behind).foldl step (step s call) :=
          ih others (step s call)
        _ = behind.foldl step (front.foldl step (step s call)) := List.foldl_append
        _ = behind.foldl step (step (front.foldl step s) call) := by rw [moved]
        _ = second.foldl step s := by rw [placed, List.foldl_append, List.foldl_cons]

end

end SameOrder
end SqlGate
