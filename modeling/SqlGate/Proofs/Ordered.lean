import Mathlib.Data.List.Basic
import SqlGate.Ordered

namespace SqlGate

/-!
# Entries of ordered maps

Pairs are entered into a map one after another.  A pair with a new key comes in
at the end, so pairs with different keys stand in the map as they were given, and
of pairs with repeated keys some remain.  An entry that is found by its key parts
the map into what stands in front of it and what stands behind it, and when it is
taken out, the last of the entries behind it comes in front of the others.
-/

namespace Ordered

variable {α : Type}

/-! ## Entering pairs -/

theorem putInto_of_new {key : String} {entries : List (String × α)}
    (fresh : key ∉ entries.map Prod.fst) (value : α) :
    putInto key value entries = entries ++ [(key, value)] := by
  induction entries with
  | nil => rfl
  | cons entry rest ih =>
      rw [List.map_cons, List.mem_cons, not_or] at fresh
      rw [putInto, if_neg fun same => fresh.1 same.symm, ih fresh.2, List.cons_append]

/-- Pairs with different keys are entered as they stand. -/
theorem entries_ofList {pairs : List (String × α)} (distinct : (pairs.map Prod.fst).Nodup) :
    (ofList pairs).entries = pairs := by
  have entered : ∀ (pairs : List (String × α)) (m : Ordered α),
      ((m.entries ++ pairs).map Prod.fst).Nodup -> (m.putAll pairs).entries = m.entries ++ pairs := by
    intro pairs
    induction pairs with
    | nil => exact fun m _ => (List.append_nil _).symm
    | cons pair rest ih =>
        intro m distinct
        have fresh : pair.1 ∉ m.entries.map Prod.fst := by
          rw [List.map_append, List.map_cons] at distinct
          intro member
          exact (List.nodup_append.mp distinct).2.2 _ member _ List.mem_cons_self rfl
        have put : (m.put pair.1 pair.2).entries = m.entries ++ [pair] :=
          putInto_of_new fresh pair.2
        rw [putAll_cons, ih]
        · rw [put, List.append_assoc, List.singleton_append]
        · rw [put, List.append_assoc, List.singleton_append]
          exact distinct
  exact entered pairs empty distinct

theorem mem_of_mem_putInto {key : String} {value : α} {entries : List (String × α)}
    {entry : String × α} (member : entry ∈ putInto key value entries) :
    entry = (key, value) ∨ entry ∈ entries := by
  induction entries with
  | nil => exact .inl (List.mem_singleton.mp member)
  | cons first rest ih =>
      rw [putInto] at member
      split at member
      · exact (List.mem_cons.mp member).imp_right (List.mem_cons_of_mem first)
      · rcases List.mem_cons.mp member with rfl | later
        · exact .inr List.mem_cons_self
        · exact (ih later).imp_right (List.mem_cons_of_mem first)

/-- Of the pairs that are entered some remain, and nothing else. -/
theorem mem_of_mem_ofList {pairs : List (String × α)} {entry : String × α}
    (member : entry ∈ (ofList pairs).entries) : entry ∈ pairs := by
  have entered : ∀ (pairs : List (String × α)) (m : Ordered α),
      entry ∈ (m.putAll pairs).entries -> entry ∈ m.entries ∨ entry ∈ pairs := by
    intro pairs
    induction pairs with
    | nil => exact fun m there => .inl there
    | cons pair rest ih =>
        intro m there
        rcases ih (m.put pair.1 pair.2) there with put | later
        · rcases mem_of_mem_putInto put with rfl | before
          · exact .inr List.mem_cons_self
          · exact .inl before
        · exact .inr (List.mem_cons_of_mem pair later)
  exact (entered pairs empty member).resolve_left List.not_mem_nil

/-! ## One entry and the others -/

section

variable {key : String} {value : α} {front behind : List (String × α)} {m : Ordered α}

theorem get?_eq_none_iff : m.get? key = none ↔ key ∉ m.entries.map Prod.fst := by
  rw [← not_iff_not, not_not, ← ne_eq, Option.ne_none_iff_exists', List.mem_map]
  constructor
  · rintro ⟨found, there⟩
    exact ⟨(key, found), (m.get?_eq_some_iff key found).mp there, rfl⟩
  · rintro ⟨⟨own, found⟩, member, rfl⟩
    exact ⟨found, (m.get?_eq_some_iff own found).mpr member⟩

/-- An entry with what stands in front of it and behind it. -/
theorem exists_append_of_get? (found : m.get? key = some value) :
    ∃ front behind, m.entries = front ++ (key, value) :: behind ∧ key ∉ front.map Prod.fst := by
  obtain ⟨front, behind, parts⟩ := List.append_of_mem ((m.get?_eq_some_iff key value).mp found)
  refine ⟨front, behind, parts, ?_⟩
  have keys := m.nodup
  rw [parts, List.map_append, List.nodup_append] at keys
  exact fun member => keys.2.2 key member key List.mem_cons_self rfl

/-- The entries behind the one of a key. -/
def after (m : Ordered α) (key : String) : List (String × α) :=
  (m.entries.dropWhile fun entry => entry.1 != key).drop 1

theorem after_eq (parts : m.entries = front ++ (key, value) :: behind)
    (absent : key ∉ front.map Prod.fst) : m.after key = behind := by
  have passed : ∀ entry ∈ front, (entry.1 != key) = true := by
    intro entry member
    refine bne_iff_ne.mpr fun same => absent ?_
    exact same ▸ List.mem_map_of_mem member
  rw [after, parts, List.dropWhile_append_of_pos passed]
  simp

/-- What stands behind an entry ends as the whole map does. -/
theorem getLast?_of_after {entries : List (String × α)} {entry last : String × α}
    (parts : entries = front ++ entry :: behind) (found : behind.getLast? = some last) :
    entries.getLast? = some last := by
  obtain ⟨others, rfl⟩ := List.getLast?_eq_some_iff.mp found
  rw [parts, ← List.cons_append, ← List.append_assoc, List.getLast?_concat]

/-- The last of the entries in front of the others. -/
def lastFirst (entries : List (String × α)) : List (String × α) :=
  entries.getLast?.toList ++ entries.dropLast

@[simp] theorem lastFirst_concat (front : List (String × α)) (last : String × α) :
    lastFirst (front ++ [last]) = last :: front := by
  simp [lastFirst]

theorem lastFirst_perm (entries : List (String × α)) : (lastFirst entries).Perm entries := by
  rcases List.eq_nil_or_concat entries with rfl | ⟨front, last, rfl⟩
  · exact List.Perm.refl _
  · rw [List.concat_eq_append, lastFirst_concat]
    exact (List.perm_append_singleton last front).symm

theorem swapRemoveFrom_append (absent : key ∉ front.map Prod.fst) (value : α)
    (behind : List (String × α)) :
    swapRemoveFrom key (front ++ (key, value) :: behind) = front ++ lastFirst behind := by
  induction front with
  | nil =>
      rw [List.nil_append, List.nil_append, swapRemoveFrom, if_pos rfl, lastFirst]
      cases last : behind.getLast? with
      | none => simp [List.getLast?_eq_none_iff.mp last]
      | some entry => simp
  | cons entry front ih =>
      rw [List.map_cons, List.mem_cons, not_or] at absent
      rw [List.cons_append, swapRemoveFrom, if_neg fun same => absent.1 same.symm, ih absent.2]
      rfl

end

end Ordered
end SqlGate
