import SqlGate.Proofs.Query.Legible

namespace SqlGate

/-!
# Conditions that can be read in one way

A predicate is a word, an operator and what the operator takes.  No operator
begins another, each with the blanks around it, so a predicate tells all of its
normal form but its connective; in a chain the connective is told by what
stands between.  A chain ends where no connective follows.

The normal forms matter here: a list of one value and the value itself are
written alike.
-/

open Slot (chars apart Follows)

namespace Template

/-- Templates of one statement have the same text with the same values in place, if their
placeholders can be read. -/
theorem slots_eq_of_statement {t u : Template} {names others : List String}
    {values further : List Value} (first : Layout t names values)
    (second : Layout u others further) (clean : ∀ s ∈ names, '$' ∉ s.toList)
    (cleanOthers : ∀ s ∈ others, '$' ∉ s.toList) (same : t.statement = u.statement) :
    t.slots = u.slots := by
  have filled : t.slots.map some = u.slots.map some := by
    rw [← resolve_statement first clean, same, resolve_statement second cleanOthers]
  exact (List.map_inj_right fun _ _ => Option.some.inj).mp filled

end Template

/-! ## Predicates -/

namespace Operator

theorem apart_opening (a b : Operator) (different : a ≠ b) : apart a.opening b.opening = true := by
  have everywhere : ∀ a ∈ all, ∀ b ∈ all, a ≠ b -> apart a.opening b.opening = true := by
    decide +kernel
  exact everywhere a a.mem_all b b.mem_all different

theorem opensWithBreak_opening (op : Operator) : Text.opensWithBreak op.opening = true := by
  have everywhere : ∀ op ∈ all, Text.opensWithBreak op.opening = true := by decide +kernel
  exact everywhere op op.mem_all

end Operator

namespace Operand

theorem not_membership_of_unary {op : Operator} (unary : op.isUnary = true) :
    op.isMembership = false := by
  revert unary
  cases op <;> decide

theorem legible_values (openings : List String)
    (distinct : ∀ k ∈ openings, apart ", " k = true) :
    Legible openings (Slot.listed fun v => [.value v]) (List.map id) fun vs : List Value =>
      vs ≠ [] ∧ ∀ v ∈ vs, True := by
  refine Legible.listed ?_ distinct
  intro v w _ _ behind after _ _ same
  obtain ⟨first, rest⟩ := List.cons.inj same
  exact ⟨Slot.value.inj first, rest⟩

/-- Behind its operator, an operand can be read in one way. -/
theorem legible_slots (op : Operator) {openings : List String} :
    Legible openings slots id (Fits op) := by
  intro first second fits also behind after follows next same
  cases first with
  | none =>
      have noMembership := not_membership_of_unary fits
      cases second with
      | none => exact ⟨rfl, same⟩
      | scalar w => exact absurd (also.1.symm.trans fits) Bool.false_ne_true
      | list ws => exact absurd (noMembership.symm.trans also.1) Bool.false_ne_true
  | scalar v =>
      cases second with
      | none => exact absurd (fits.1.symm.trans also) Bool.false_ne_true
      | scalar w =>
          obtain ⟨value, rest⟩ := List.cons.inj same
          exact ⟨congrArg scalar (Slot.value.inj value), rest⟩
      | list ws => exact absurd (fits.2.symm.trans also.1) Bool.false_ne_true
  | list vs =>
      cases second with
      | none =>
          have noMembership := not_membership_of_unary also
          exact absurd (noMembership.symm.trans fits.1) Bool.false_ne_true
      | scalar w => exact absurd (also.2.symm.trans fits.1) Bool.false_ne_true
      | list ws =>
          rw [slots, slots, List.append_assoc, List.append_assoc] at same
          obtain ⟨values, same⟩ := legible_values [")"] (by decide)
            ⟨fits.2, fun _ _ => trivial⟩ ⟨also.2, fun _ _ => trivial⟩
            .self .self same
          rw [List.map_id, List.map_id] at values
          exact ⟨congrArg list values, List.append_cancel_left same⟩

end Operand

theorem Connective.apart_joint (a b : Connective) (different : a ≠ b) :
    apart a.joint b.joint = true := by
  revert different
  cases a <;> cases b <;> decide

namespace Predicate

/-- A predicate with a word for a field and an operand that its operator takes. -/
def IsProper (p : Predicate) : Prop :=
  Text.isWord p.field = true ∧ p.Fits

/-- A predicate can be read in one way, but for its connective. -/
theorem legible_written {openings : List String} : Legible openings written alone IsProper := by
  intro p q properP properQ behind after follows next same
  rw [written, written, List.append_assoc, List.append_assoc, List.append_assoc,
    List.append_assoc] at same
  have opens : ∀ (op : Operator) (rest : List Slot),
      Follows (Operator.all.map Operator.opening) (chars op.opening ++ rest) :=
    fun op rest => .opening (List.mem_map_of_mem op.mem_all)
  have breaking : ∀ k ∈ Operator.all.map Operator.opening, Text.opensWithBreak k = true := by
    intro k member
    obtain ⟨op, -, rfl⟩ := List.mem_map.mp member
    exact op.opensWithBreak_opening
  obtain ⟨field, same⟩ := Legible.word _ breaking properP.1 properQ.1 (opens _ _) (opens _ _) same
  obtain ⟨operator, same⟩ := Slot.eq_of_apart Operator.apart_opening same
  have fits : (q.operand.normal q.operator).Fits q.operator := properQ.2
  rw [← operator] at fits same
  obtain ⟨operand, ended⟩ := Operand.legible_slots p.operator properP.2 fits follows next same
  have alike : p.alone = q.alone := by
    simp only [alone, normal, mk.injEq, and_true]
    exact ⟨field, operator, operand.trans (by rw [operator]; rfl)⟩
  exact ⟨alike, ended⟩

/-- The normal form of a predicate is known once its connective is. -/
theorem normal_eq_of_alone {p q : Predicate} (alike : p.alone = q.alone)
    (joined : p.connective = q.connective) : p.normal = q.normal := by
  simp only [alone, normal, mk.injEq] at alike ⊢
  exact ⟨alike.1, alike.2.1, alike.2.2.1, joined⟩

/-! ## Chains -/

/-- A chain of which the connectives of the followers are read or not. -/
def readChain (read : Predicate -> Predicate) : List Predicate -> List Predicate
  | [] => []
  | p :: rest => p.alone :: rest.map read

theorem readChain_normal (ps : List Predicate) : readChain normal ps = normalChain ps := by
  cases ps <;> rfl

theorem readChain_alone (ps : List Predicate) : readChain alone ps = ps.map alone := by
  cases ps <;> rfl

theorem legible_link {openings : List String} :
    Legible openings (link fun p => p.connective.joint) normal IsProper := by
  intro p q properP properQ behind after follows next same
  rw [link, link, List.append_assoc, List.append_assoc] at same
  obtain ⟨joined, same⟩ := Slot.eq_of_apart Connective.apart_joint same
  obtain ⟨alike, ended⟩ := legible_written properP properQ follows next same
  exact ⟨normal_eq_of_alone alike joined, ended⟩

theorem legible_followingAnd {openings : List String} :
    Legible openings (link fun _ => " AND ") alone IsProper := by
  intro p q properP properQ behind after follows next same
  rw [link, link, List.append_assoc, List.append_assoc] at same
  exact legible_written properP properQ follows next (List.append_cancel_left same)

/-- A chain in front of clauses that open differently from its links. -/
theorem legible_chain (openings : List String) (keyword : String) {text : Predicate -> String}
    {read : Predicate -> Predicate}
    (linked : Legible ([" AND ", " OR "] ++ openings) (link text) read IsProper)
    (joins : ∀ p, text p ∈ [" AND ", " OR "])
    (distinct : ∀ k ∈ [keyword, " AND ", " OR "], ∀ l ∈ openings, apart k l = true)
    (begins : keyword.toList ≠ []) :
    Legible openings (Slot.clause keyword List.isEmpty (chainSlots text)) (readChain read)
      fun ps => ∀ p ∈ ps, p.IsProper := by
  have opens : ∀ p, ∃ k ∈ [" AND ", " OR "], ∃ rest, link text p = chars k ++ rest :=
    fun p => ⟨text p, joins p, p.written, rfl⟩
  have followers := linked.flatMap opens (by decide)
    fun k member => distinct k (List.mem_cons_of_mem _ member)
  refine Legible.clause ?_ ?_ begins (distinct keyword List.mem_cons_self)
  · rintro (_ | ⟨p, rest⟩) (_ | ⟨q, others⟩) ⟨thereP, properP⟩ ⟨thereQ, properQ⟩ behind after
      follows next same
    · cases thereP
    · cases thereP
    · cases thereQ
    · rw [chainSlots, chainSlots, List.append_assoc, List.append_assoc] at same
      obtain ⟨first, same⟩ := legible_written (properP p List.mem_cons_self)
        (properQ q List.mem_cons_self) (follows.flatMap opens rest) (next.flatMap opens others) same
      obtain ⟨later, ended⟩ := followers
        (fun r member => properP r (List.mem_cons_of_mem _ member))
        (fun r member => properQ r (List.mem_cons_of_mem _ member)) follows next same
      exact ⟨by rw [readChain, readChain, first, later], ended⟩
  · intro ps qs none also
    rw [List.isEmpty_iff.mp none, List.isEmpty_iff.mp also]

end Predicate
end SqlGate
