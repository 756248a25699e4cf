namespace SqlGate

/-!
# Maps that remember the order of insertion

Rows, payloads and registered columns are keyed by text and keep their keys in
the order in which these first came in: a repeated key keeps its place and gets
the later value.  Each key occurs once, and the type carries the proof.  Only the
registry has keys of another kind.
-/

/-- A map that keeps the order of insertion; its keys are texts unless said otherwise. -/
structure Ordered (α : Type) (κ : Type := String) where
  /-- The entries in order. -/
  entries : List (κ × α)
  /-- No key occurs twice. -/
  nodup : (entries.map Prod.fst).Nodup := by simp
deriving DecidableEq

namespace Ordered

variable {α β κ : Type}

/-- Write a value in place, or behind all others when the key is new. -/
def putInto [DecidableEq κ] (key : κ) (value : α) : List (κ × α) -> List (κ × α)
  | [] => [(key, value)]
  | entry :: rest =>
      if entry.1 = key then (key, value) :: rest else entry :: putInto key value rest

theorem keys_putInto [DecidableEq κ] (key : κ) (value : α) (entries : List (κ × α)) :
    (putInto key value entries).map Prod.fst
      = if key ∈ entries.map Prod.fst then entries.map Prod.fst
        else entries.map Prod.fst ++ [key] := by
  induction entries with
  | nil => simp [putInto]
  | cons entry rest ih =>
      by_cases h : entry.1 = key
      · simp [putInto, h]
      · have h' : ¬ key = entry.1 := fun e => h e.symm
        simp only [putInto, h, if_false, List.map_cons, ih, List.mem_cons, h', false_or]
        split <;> simp

theorem nodup_putInto [DecidableEq κ] (key : κ) (value : α) (entries : List (κ × α))
    (h : (entries.map Prod.fst).Nodup) : ((putInto key value entries).map Prod.fst).Nodup := by
  rw [keys_putInto]
  split
  · exact h
  · rename_i hk
    rw [List.nodup_append]
    refine ⟨h, by simp, ?_⟩
    intro a ha b hb e
    simp only [List.mem_singleton] at hb
    subst hb
    subst e
    exact hk ha

def empty : Ordered α κ := { entries := [] }

instance : Inhabited (Ordered α κ) := ⟨empty⟩

def isEmpty (m : Ordered α κ) : Bool :=
  m.entries.isEmpty

def size (m : Ordered α κ) : Nat :=
  m.entries.length

def keys (m : Ordered α κ) : List κ :=
  m.entries.map Prod.fst

def values (m : Ordered α κ) : List α :=
  m.entries.map Prod.snd

def get? [DecidableEq κ] (m : Ordered α κ) (key : κ) : Option α :=
  m.entries.lookup key

def contains (m : Ordered α) (key : String) : Bool :=
  m.keys.contains key

/-- A value for a key: in place if the key is there, at the end if it is new. -/
def put [DecidableEq κ] (m : Ordered α κ) (key : κ) (value : α) : Ordered α κ :=
  { entries := putInto key value m.entries
    nodup := nodup_putInto key value m.entries m.nodup }

def putAll (m : Ordered α) (pairs : List (String × α)) : Ordered α :=
  pairs.foldl (fun found pair => found.put pair.1 pair.2) m

/-! ## Taking an entry out -/

/-- Take the entry of a key out; the last entry moves into its place. -/
def swapRemoveFrom (key : String) : List (String × α) -> List (String × α)
  | [] => []
  | entry :: rest =>
      if entry.1 = key then
        match rest.getLast? with
        | none => []
        | some last => last :: rest.dropLast
      else entry :: swapRemoveFrom key rest

theorem swapRemoveFrom_perm (key : String) (entries : List (String × α)) :
    (swapRemoveFrom key entries).Perm (entries.eraseP fun entry => decide (entry.1 = key)) := by
  induction entries with
  | nil => exact List.Perm.refl _
  | cons entry rest ih =>
      by_cases h : entry.1 = key
      · rw [List.eraseP_cons_of_pos (by simpa using h)]
        simp only [swapRemoveFrom, h, if_true]
        cases hl : rest.getLast? with
        | none =>
            rw [List.getLast?_eq_none_iff.mp hl]
        | some last =>
            obtain ⟨front, rfl⟩ := List.getLast?_eq_some_iff.mp hl
            simpa using (List.perm_append_singleton last front).symm
      · rw [List.eraseP_cons_of_neg (by simpa using h)]
        simp only [swapRemoveFrom, h, if_false]
        exact ih.cons entry

theorem nodup_swapRemoveFrom (key : String) (entries : List (String × α))
    (h : (entries.map Prod.fst).Nodup) : ((swapRemoveFrom key entries).map Prod.fst).Nodup := by
  rw [((swapRemoveFrom_perm key entries).map Prod.fst).nodup_iff]
  exact h.sublist (List.eraseP_sublist.map Prod.fst)

/-- Take the entry of a key out; the last entry moves into its place. -/
def swapRemove (m : Ordered α) (key : String) : Ordered α :=
  { entries := swapRemoveFrom key m.entries
    nodup := nodup_swapRemoveFrom key m.entries m.nodup }

/-! ## From lists -/

/-- The map of a list of pairs; of equal keys the first place and the last value remain. -/
def ofList (pairs : List (String × α)) : Ordered α :=
  putAll empty pairs

def mapValues (f : α -> β) (m : Ordered α) : Ordered β :=
  { entries := m.entries.map fun entry => (entry.1, f entry.2)
    nodup := by
      have h : (m.entries.map fun entry => (entry.1, f entry.2)).map Prod.fst
          = m.entries.map Prod.fst := by simp
      rw [h]
      exact m.nodup }

@[simp] theorem entries_empty : (empty : Ordered α).entries = [] := rfl

@[simp] theorem keys_empty : (empty : Ordered α).keys = [] := rfl

@[simp] theorem putAll_nil (m : Ordered α) : m.putAll [] = m := rfl

@[simp] theorem putAll_cons (m : Ordered α) (pair : String × α) (pairs : List (String × α)) :
    m.putAll (pair :: pairs) = (m.put pair.1 pair.2).putAll pairs := rfl

@[simp] theorem keys_put (m : Ordered α) (key : String) (value : α) :
    (m.put key value).keys = if key ∈ m.keys then m.keys else m.keys ++ [key] :=
  keys_putInto key value m.entries

theorem lookup_putInto [DecidableEq κ] (key other : κ) (value : α) (entries : List (κ × α)) :
    (putInto key value entries).lookup other
      = if other = key then some value else entries.lookup other := by
  induction entries with
  | nil =>
      by_cases h : other = key
      · simp [putInto, h]
      · have hb : (other == key) = false := by simp [h]
        simp [putInto, List.lookup_cons, h, hb]
  | cons entry rest ih =>
      obtain ⟨k, v⟩ := entry
      by_cases h : k = key
      · subst h
        by_cases ho : other = k
        · simp [putInto, ho]
        · have hb : (other == k) = false := by simp [ho]
          simp [putInto, ho, List.lookup_cons, hb]
      · by_cases ho : other = k
        · subst ho
          simp [putInto, h]
        · have hb : (other == k) = false := by simp [ho]
          simp [putInto, h, List.lookup_cons, hb, ih]

@[simp] theorem get?_put [DecidableEq κ] (m : Ordered α κ) (key other : κ) (value : α) :
    (m.put key value).get? other = if other = key then some value else m.get? other :=
  lookup_putInto key other value m.entries

/-- Since each key occurs once, a value is found exactly where it was entered. -/
theorem get?_eq_some_iff [DecidableEq κ] (m : Ordered α κ) (key : κ) (value : α) :
    m.get? key = some value ↔ (key, value) ∈ m.entries := by
  obtain ⟨entries, nodup⟩ := m
  change entries.lookup key = some value ↔ (key, value) ∈ entries
  induction entries with
  | nil => simp
  | cons entry rest ih =>
      obtain ⟨k, v⟩ := entry
      have parts := List.nodup_cons.mp nodup
      by_cases same : key = k
      · subst same
        have elsewhere : (key, value) ∉ rest := fun member =>
          parts.1 (List.mem_map.mpr ⟨(key, value), member, rfl⟩)
        simp [elsewhere, eq_comm]
      · have differs : (key == k) = false := by simp [same]
        rw [List.lookup_cons, differs, ih parts.2]
        simp [same]

/-- Where an entry was taken out, its key is gone and every other entry is left. -/
theorem mem_swapRemove (m : Ordered α) (key : String) (entry : String × α) :
    entry ∈ (m.swapRemove key).entries ↔ entry ∈ m.entries ∧ entry.1 ≠ key := by
  obtain ⟨entries, nodup⟩ := m
  change entry ∈ swapRemoveFrom key entries ↔ entry ∈ entries ∧ entry.1 ≠ key
  rw [(swapRemoveFrom_perm key entries).mem_iff]
  induction entries with
  | nil => simp
  | cons first rest ih =>
      have parts := List.nodup_cons.mp nodup
      by_cases same : first.1 = key
      · rw [List.eraseP_cons_of_pos (by simpa using same)]
        constructor
        · intro member
          refine ⟨List.mem_cons_of_mem _ member, ?_⟩
          intro again
          exact parts.1 (List.mem_map.mpr ⟨entry, member, again.trans same.symm⟩)
        · rintro ⟨member, other⟩
          rcases List.mem_cons.mp member with here | later
          · exact absurd (here ▸ same) other
          · exact later
      · rw [List.eraseP_cons_of_neg (by simpa using same), List.mem_cons, List.mem_cons,
          ih parts.2]
        constructor
        · rintro (here | ⟨later, other⟩)
          · exact ⟨Or.inl here, here ▸ same⟩
          · exact ⟨Or.inr later, other⟩
        · rintro ⟨here | later, other⟩
          · exact Or.inl here
          · exact Or.inr ⟨later, other⟩

@[simp] theorem get?_swapRemove (m : Ordered α) (key other : String) :
    (m.swapRemove key).get? other = if other = key then none else m.get? other := by
  apply Option.ext
  intro value
  rw [get?_eq_some_iff, mem_swapRemove]
  by_cases same : other = key
  · simp [same]
  · simp [same, get?_eq_some_iff]

/-! ## Changing all values -/

/-- Maps with the same entries in the same order are equal. -/
theorem eq_of_entries {m n : Ordered α} (same : m.entries = n.entries) : m = n := by
  cases m
  cases n
  cases same
  rfl

@[simp] theorem keys_mapValues (f : α -> β) (m : Ordered α) : (m.mapValues f).keys = m.keys := by
  simp [keys, mapValues]

@[simp] theorem values_mapValues (f : α -> β) (m : Ordered α) :
    (m.mapValues f).values = m.values.map f := by
  simp [values, mapValues]

@[simp] theorem isEmpty_mapValues (f : α -> β) (m : Ordered α) :
    (m.mapValues f).isEmpty = m.isEmpty := by
  simp [isEmpty, mapValues]

theorem map_putInto (f : α -> β) (key : String) (value : α) (entries : List (String × α)) :
    (putInto key value entries).map (fun entry => (entry.1, f entry.2))
      = putInto key (f value) (entries.map fun entry => (entry.1, f entry.2)) := by
  induction entries with
  | nil => rfl
  | cons entry rest ih =>
      by_cases same : entry.1 = key
      · simp [putInto, same]
      · simp [putInto, same, ih]

/-- A value keeps its place when all values are changed. -/
theorem mapValues_put (f : α -> β) (m : Ordered α) (key : String) (value : α) :
    (m.put key value).mapValues f = (m.mapValues f).put key (f value) :=
  eq_of_entries (map_putInto f key value m.entries)

/-- Of repeated keys the same places and the same turns remain, whatever the values are. -/
theorem mapValues_ofList (f : α -> β) (pairs : List (String × α)) :
    (ofList pairs).mapValues f = ofList (pairs.map fun pair => (pair.1, f pair.2)) := by
  have entered : ∀ (rest : List (String × α)) (m : Ordered α), (m.putAll rest).mapValues f
      = (m.mapValues f).putAll (rest.map fun pair => (pair.1, f pair.2)) := by
    intro rest
    induction rest with
    | nil => intro m; rfl
    | cons pair rest ih =>
        intro m
        rw [putAll_cons, ih, mapValues_put, List.map_cons, putAll_cons]
  exact entered pairs empty

end Ordered
end SqlGate
