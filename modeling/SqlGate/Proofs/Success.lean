namespace SqlGate

/-!
# Computations that succeed

A computation of several steps succeeds only if each step does, and one whose
result is changed afterwards only if it does itself.
-/

variable {ε α β : Type}

theorem exists_ok_of_bind {first : Except ε α} {second : α -> Except ε β} {b : β}
    (succeeds : first >>= second = .ok b) : ∃ a, first = .ok a ∧ second a = .ok b := by
  cases first with
  | error fault => cases succeeds
  | ok a => exact ⟨a, rfl, succeeds⟩

theorem exists_ok_of_map {computed : Except ε α} {change : α -> β} {b : β}
    (succeeds : computed.map change = .ok b) : ∃ a, computed = .ok a ∧ change a = b := by
  cases computed with
  | error fault => cases succeeds
  | ok a => exact ⟨a, rfl, Except.ok.inj succeeds⟩

theorem bind_pure_eq_map (computed : Except ε α) (change : α -> β) :
    (computed >>= fun a => pure (change a)) = computed.map change := by
  cases computed <;> rfl

/-- A computation whose result can be shown has succeeded with it. -/
theorem eq_ok_of_toOption {computed : Except ε α} {a : α} (shown : computed.toOption = some a) :
    computed = .ok a := by
  cases computed with
  | error fault => cases shown
  | ok b => exact congrArg Except.ok (Option.some.inj shown)

/-- What a computation for each item gives was computed for one of them. -/
theorem exists_of_mem_mapM {compute : α -> Except ε β} {items : List α} {results : List β}
    (succeeds : items.mapM compute = .ok results) :
    ∀ b ∈ results, ∃ a ∈ items, compute a = .ok b := by
  induction items generalizing results with
  | nil =>
      cases succeeds
      exact fun b member => absurd member List.not_mem_nil
  | cons item rest ih =>
      rw [List.mapM_cons] at succeeds
      obtain ⟨first, computed, succeeds⟩ := exists_ok_of_bind succeeds
      obtain ⟨others, found, succeeds⟩ := exists_ok_of_bind succeeds
      cases succeeds
      intro b member
      rcases List.mem_cons.mp member with rfl | later
      · exact ⟨item, List.mem_cons_self, computed⟩
      · obtain ⟨a, there, gives⟩ := ih found b later
        exact ⟨a, List.mem_cons_of_mem _ there, gives⟩

/-- What each step of a run keeps, the whole run keeps. -/
theorem related_of_foldlM {R : β -> β -> Prop} (refl : ∀ b, R b b)
    (trans : ∀ {a b c}, R a b -> R b c -> R a c) {step : β -> α -> Except ε β}
    (each : ∀ b a next, step b a = .ok next -> R b next) {items : List α} {start last : β}
    (ran : items.foldlM step start = .ok last) : R start last := by
  induction items generalizing start with
  | nil =>
      cases ran
      exact refl _
  | cons a rest ih =>
      rw [List.foldlM_cons] at ran
      obtain ⟨next, stepped, ran⟩ := exists_ok_of_bind ran
      exact trans (each start a next stepped) (ih ran)

end SqlGate
