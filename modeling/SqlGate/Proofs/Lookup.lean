import Mathlib.Data.List.Basic

namespace SqlGate

/-!
# Looking up numbered entries

Connections and handles are kept in lists of entries under their numbers.  Such
a list is edited at one number, or loses the entries of one; what is found
under another number stays.
-/

variable {β : Type}

theorem mem_of_lookup {entries : List (Nat × β)} {n : Nat} {b : β}
    (found : entries.lookup n = some b) : (n, b) ∈ entries := by
  induction entries with
  | nil => cases found
  | cons entry rest ih =>
      rw [List.lookup_cons] at found
      split at found
      · rename_i same
        cases found
        rw [eq_of_beq same]
        exact List.mem_cons_self
      · exact List.mem_cons_of_mem _ (ih found)

theorem lookup_edit (entries : List (Nat × β)) (edited n : Nat) (change : β -> β) :
    (entries.map fun entry => if entry.1 = edited then (entry.1, change entry.2) else entry).lookup
        n = if n = edited then (entries.lookup n).map change else entries.lookup n := by
  induction entries with
  | nil => simp
  | cons entry rest ih =>
      obtain ⟨k, old⟩ := entry
      rw [List.map_cons, List.lookup_cons]
      by_cases here : n = k
      · subst here
        by_cases same : n = edited
        · simp [same]
        · simp [same]
      · rw [List.lookup_cons, beq_false_of_ne here]
        by_cases same : k = edited
        · rw [if_pos same, beq_false_of_ne here]
          exact ih
        · rw [if_neg same, beq_false_of_ne here]
          exact ih

theorem lookup_remove (entries : List (Nat × β)) (gone n : Nat) :
    (entries.filter fun entry => entry.1 != gone).lookup n
      = if n = gone then none else entries.lookup n := by
  induction entries with
  | nil => simp
  | cons entry rest ih =>
      obtain ⟨k, old⟩ := entry
      by_cases same : k = gone
      · rw [List.filter_cons_of_neg (by simp [same]), ih, List.lookup_cons]
        by_cases here : n = k
        · rw [if_pos (here.trans same), if_pos (here.trans same)]
        · rw [beq_false_of_ne here]
      · rw [List.filter_cons_of_pos (by simp [same]), List.lookup_cons, List.lookup_cons]
        by_cases here : n = k
        · rw [if_neg (here ▸ same), here, beq_self_eq_true]
        · rw [beq_false_of_ne here]
          exact ih

end SqlGate
