import SqlGate.Proofs.Query.Written
import SqlGate.Proofs.Text.Digits

namespace SqlGate

/-!
# Texts that can be read in one way

A statement is read from left to right, and nothing in it says where a part of
it ends but the part behind.  A way of writing is legible in front of some
openings if two texts written in this way, each with nothing or one of the
openings behind it, are equal only if the same was written and the same stands
behind.

Words are legible in front of openings that begin with a character that no word
has, texts of a family in which none begins another in front of anything, and
lists and clauses if their items are and what opens them cannot be taken for
what stands behind.  In all of this the parts behind are carried along, so that
a statement is read part by part.
-/

namespace Text

/-- Whether a character cannot stand in a word. -/
def breaksWord (c : Char) : Bool :=
  isBlank c || c == ',' || c == '(' || c == ')' || c == '$'

/-- A word: no blank, no comma, no parenthesis and no dollar sign. -/
def isWord (s : String) : Bool :=
  s.toList.all fun c => !breaksWord c

/-- Whether a text begins with a character that cannot stand in a word. -/
def opensWithBreak (s : String) : Bool :=
  s.toList.head?.any breaksWord

theorem breaksWord_of_isDigit {c : Char} (digit : c.isDigit = true) : breaksWord c = false := by
  have range := toNat_of_isDigit digit
  have differs : ∀ d : Char, d.toNat < 48 -> (c == d) = false := by
    intro d below
    refine beq_false_of_ne ?_
    rintro rfl
    omega
  rw [breaksWord, isBlank_of_isDigit digit, differs ',' (by decide), differs '(' (by decide),
    differs ')' (by decide), differs '$' (by decide)]
  rfl

theorem isWord_ofNat (n : Nat) : isWord (String.ofList (ofNat n)) = true := by
  rw [isWord, String.toList_ofList, List.all_eq_true]
  intro c member
  rw [breaksWord_of_isDigit (isDigit_of_mem_ofNat member)]
  rfl

end Text

namespace Slot

theorem chars_inj {s t : String} : chars s = chars t ↔ s = t :=
  (List.map_inj_right fun _ _ => Slot.character.inj).trans String.toList_inj

theorem prefix_of_chars {s t : String} (begins : chars s <+: chars t) : s.toList <+: t.toList := by
  obtain ⟨cs, shorter, same⟩ := List.prefix_map_iff.mp begins
  rwa [(List.map_inj_right fun _ _ => Slot.character.inj).mp same]

/-- Neither text begins the other. -/
def apart (s t : String) : Bool :=
  !s.toList.isPrefixOf t.toList && !t.toList.isPrefixOf s.toList

/-- Nothing, or one of the openings with anything behind it. -/
def Follows (openings : List String) (behind : List Slot) : Prop :=
  behind = [] ∨ ∃ opening ∈ openings, ∃ rest, behind = chars opening ++ rest

variable {openings others : List String} {s t : String} {behind after : List Slot}

theorem not_apart_of_chars (same : chars s ++ behind = chars t ++ after) : apart s t = false := by
  have first : chars s <+: chars t ++ after := same ▸ List.prefix_append _ _
  rcases List.prefix_or_prefix_of_prefix first (List.prefix_append _ _) with begins | begins
  · have begins := List.isPrefixOf_iff_prefix.mpr (prefix_of_chars begins)
    rw [apart, begins]
    rfl
  · have begins := List.isPrefixOf_iff_prefix.mpr (prefix_of_chars begins)
    rw [apart, begins, Bool.and_comm]
    rfl

/-- Texts of which none begins another tell which of them was written. -/
theorem eq_of_apart {α : Type} {text : α -> String}
    (distinct : ∀ a b, a ≠ b -> apart (text a) (text b) = true) {a b : α}
    (same : chars (text a) ++ behind = chars (text b) ++ after) : a = b ∧ behind = after := by
  by_cases equal : a = b
  · subst equal
    exact ⟨rfl, List.append_cancel_left same⟩
  · have together := not_apart_of_chars same
    rw [distinct a b equal] at together
    cases together

theorem Follows.nil : Follows openings [] := .inl rfl

theorem Follows.opening (member : s ∈ openings) : Follows openings (chars s ++ behind) :=
  .inr ⟨s, member, behind, rfl⟩

theorem Follows.self : Follows [s] (chars s ++ behind) :=
  .opening List.mem_cons_self

theorem Follows.mono (included : openings ⊆ others) (follows : Follows openings behind) :
    Follows others behind := by
  rcases follows with none | ⟨opening, member, rest, begins⟩
  · exact .inl none
  · exact .inr ⟨opening, included member, rest, begins⟩

/-- What begins with a text apart from all openings does not follow. -/
theorem not_follows_of_apart (begins : s.toList ≠ [])
    (distinct : ∀ k ∈ openings, apart s k = true) : ¬ Follows openings (chars s ++ behind) := by
  rintro (none | ⟨opening, member, rest, same⟩)
  · have empty := (List.append_eq_nil_iff.mp none).1
    exact begins (List.map_eq_nil_iff.mp empty)
  · have together := not_apart_of_chars same
    rw [distinct opening member] at together
    cases together

/-! ## Words, lists and clauses -/

/-- Whether a slot can stand in a word. -/
def inWord : Slot -> Bool
  | .character c => !Text.breaksWord c
  | .value _ => false

/-- What stands behind a word is nothing, or begins with what no word has. -/
theorem Follows.breaks (breaking : ∀ k ∈ openings, Text.opensWithBreak k = true)
    (follows : Follows openings behind) : behind.takeWhile inWord = [] := by
  rcases follows with rfl | ⟨k, member, rest, rfl⟩
  · rfl
  · have breaks := breaking k member
    unfold Text.opensWithBreak at breaks
    unfold chars
    cases letters : k.toList with
    | nil => rw [letters] at breaks; cases breaks
    | cons c cs =>
        rw [letters] at breaks
        have noWord : inWord (.character c) = false := by simpa [inWord] using breaks
        simp [noWord]

theorem span_word (isWord : Text.isWord s = true) (ends : behind.takeWhile inWord = []) :
    (chars s ++ behind).takeWhile inWord = chars s
      ∧ (chars s ++ behind).dropWhile inWord = behind := by
  have inside : ∀ slot ∈ chars s, inWord slot = true := by
    intro slot member
    obtain ⟨c, letter, rfl⟩ := List.mem_map.mp member
    exact List.all_eq_true.mp isWord c letter
  have whole := List.takeWhile_append_dropWhile (p := inWord) (l := behind)
  rw [ends, List.nil_append] at whole
  rw [List.takeWhile_append_of_pos inside, List.dropWhile_append_of_pos inside, ends, whole,
    List.append_nil]
  exact ⟨rfl, rfl⟩

/-- Behind a list follows an item, or what follows without one. -/
theorem Follows.flatMap {α : Type} {openers : List String} {write : α -> List Slot}
    (follows : Follows openings behind)
    (opens : ∀ a, ∃ k ∈ openers, ∃ rest, write a = chars k ++ rest) (as : List α) :
    Follows (openers ++ openings) (as.flatMap write ++ behind) := by
  cases as with
  | nil => exact follows.mono (List.subset_append_right _ _)
  | cons a rest =>
      obtain ⟨k, member, others, opened⟩ := opens a
      rw [List.flatMap_cons, opened, List.append_assoc, List.append_assoc]
      exact Follows.opening (List.mem_append_left _ member)

/-- Behind a clause that may be left out follows its keyword, or what follows without it. -/
theorem Follows.clause {α : Type} (follows : Follows openings behind) (keyword : String)
    (absent : α -> Bool) (write : α -> List Slot) (a : α) :
    Follows (keyword :: openings) (Slot.clause keyword absent write a ++ behind) := by
  unfold Slot.clause
  split
  · exact follows.mono (List.subset_cons_self _ _)
  · rw [List.append_assoc]
    exact Follows.opening List.mem_cons_self

/-- In front of certain openings, a text opens in certain ways itself. -/
def Opens {α : Type} (openings between : List String) (write : α -> List Slot) : Prop :=
  ∀ (a : α) ⦃behind : List Slot⦄, Follows openings behind -> Follows between (write a ++ behind)

theorem opens_clause {α β : Type} (keyword : String) (absent : α -> Bool) (write : α -> List Slot)
    (part : β -> α) :
    Opens openings (keyword :: openings) fun b => Slot.clause keyword absent write (part b) :=
  fun b _ follows => follows.clause keyword absent write (part b)

theorem Opens.append {α : Type} {before between : List String} {first second : α -> List Slot}
    (opens : Opens between before first) (later : Opens openings between second) :
    Opens openings before fun a => first a ++ second a := by
  intro a behind follows
  rw [List.append_assoc]
  exact opens a (later a follows)

end Slot

open Slot (chars apart Follows)

/-- Texts written from an `α` in front of the openings tell what was read from it, and end where
they should. -/
def Legible {α β : Type} (openings : List String) (write : α -> List Slot) (read : α -> β)
    (proper : α -> Prop) : Prop :=
  ∀ ⦃a b : α⦄, proper a -> proper b ->
    ∀ ⦃behind after : List Slot⦄, Follows openings behind -> Follows openings after ->
      write a ++ behind = write b ++ after -> read a = read b ∧ behind = after

namespace Legible

variable {α β : Type} {openings others : List String} {write : α -> List Slot} {read : α -> β}
  {proper : α -> Prop}

/-- What is read of a part is read of the whole. -/
theorem comp {γ : Type} (legible : Legible openings write read proper) (part : γ -> α) :
    Legible openings (fun c => write (part c)) (fun c => read (part c)) fun c => proper (part c) :=
  fun _ _ properA properB _ _ follows next same => legible properA properB follows next same

/-- Two texts behind each other: the second one opens as the first one needs it. -/
theorem append {γ : Type} {between : List String} {second : α -> List Slot} {readSecond : α -> γ}
    {properSecond : α -> Prop} (first : Legible between write read proper)
    (behindIt : Legible openings second readSecond properSecond)
    (opens : Slot.Opens openings between second) :
    Legible openings (fun a => write a ++ second a) (fun a => (read a, readSecond a)) fun a =>
      proper a ∧ properSecond a := by
  intro a b properA properB behind after follows next same
  rw [List.append_assoc, List.append_assoc] at same
  obtain ⟨one, same⟩ := first properA.1 properB.1 (opens a follows) (opens b next) same
  obtain ⟨two, ended⟩ := behindIt properA.2 properB.2 follows next same
  exact ⟨Prod.ext one two, ended⟩

/-! ## Words -/

/-- A word ends where something begins that no word has. -/
theorem word (openings : List String)
    (breaking : ∀ k ∈ openings, Text.opensWithBreak k = true) :
    Legible openings chars id fun s => Text.isWord s = true := by
  intro s t wordS wordT behind after follows next same
  have first := Slot.span_word wordS (Slot.Follows.breaks breaking follows)
  have second := Slot.span_word wordT (Slot.Follows.breaks breaking next)
  rw [same] at first
  exact ⟨Slot.chars_inj.mp (first.1.symm.trans second.1), first.2.symm.trans second.2⟩

/-- The digits of a number are a word. -/
theorem number (openings : List String)
    (breaking : ∀ k ∈ openings, Text.opensWithBreak k = true) :
    Legible openings (fun n => chars (String.ofList (Text.ofNat n))) id fun _ => True := by
  intro m n _ _ behind after follows next same
  obtain ⟨digits, ended⟩ := word openings breaking (Text.isWord_ofNat m) (Text.isWord_ofNat n)
    follows next same
  have letters : Text.ofNat m = Text.ofNat n := String.ofList_injective digits
  have value := congrArg (Nat.ofDigitChars 10 · 0) letters
  simp only [Text.ofNat, Nat.ofDigitChars_ten_toDigits] at value
  exact ⟨value, ended⟩

/-! ## Lists and clauses -/

/-- Items that open so that nothing behind the list does: the list ends with its last item. -/
theorem flatMap {openers : List String}
    (legible : Legible (openers ++ openings) write read proper)
    (opens : ∀ a, ∃ k ∈ openers, ∃ rest, write a = chars k ++ rest)
    (begins : ∀ k ∈ openers, k.toList ≠ [])
    (distinct : ∀ k ∈ openers, ∀ l ∈ openings, apart k l = true) :
    Legible openings (List.flatMap write) (List.map read) fun as => ∀ a ∈ as, proper a := by
  -- A further item is never taken for what stands behind the list, so both lists end together.
  have none : ∀ (a : α) (rest behind : List Slot),
      ¬ Follows openings (write a ++ rest ++ behind) := by
    intro a rest behind
    obtain ⟨k, member, others, opened⟩ := opens a
    rw [opened, List.append_assoc, List.append_assoc]
    exact Slot.not_follows_of_apart (begins k member) (distinct k member)
  intro as bs properAs properBs behind after follows next same
  induction as generalizing bs with
  | nil =>
      cases bs with
      | nil => exact ⟨rfl, same⟩
      | cons b rest =>
          rw [List.flatMap_nil, List.nil_append, List.flatMap_cons] at same
          exact absurd (same ▸ follows) (none b _ after)
  | cons a rest ih =>
      cases bs with
      | nil =>
          rw [List.flatMap_nil, List.nil_append, List.flatMap_cons] at same
          exact absurd (same ▸ next) (none a _ behind)
      | cons b others =>
          rw [List.flatMap_cons, List.flatMap_cons, List.append_assoc, List.append_assoc] at same
          obtain ⟨first, same⟩ := legible (properAs a List.mem_cons_self)
            (properBs b List.mem_cons_self) (follows.flatMap opens rest) (next.flatMap opens others)
            same
          obtain ⟨later, ended⟩ := ih
            (fun c member => properAs c (List.mem_cons_of_mem _ member))
            (fun c member => properBs c (List.mem_cons_of_mem _ member)) same
          exact ⟨by rw [List.map_cons, List.map_cons, first, later], ended⟩

/-- A list with commas that is not empty. -/
theorem listed (legible : Legible (", " :: openings) write read proper)
    (distinct : ∀ k ∈ openings, apart ", " k = true) :
    Legible openings (Slot.listed write) (List.map read) fun as =>
      as ≠ [] ∧ ∀ a ∈ as, proper a := by
  have opens : ∀ a, ∃ k ∈ [", "], ∃ rest, chars ", " ++ write a = chars k ++ rest :=
    fun a => ⟨", ", List.mem_cons_self, write a, rfl⟩
  have behindComma : Legible openings
      (List.flatMap fun a => chars ", " ++ write a) (List.map read)
      fun as => ∀ a ∈ as, proper a := by
    refine flatMap ?_ opens (by decide) (by simpa using distinct)
    intro a b properA properB behind after follows next same
    rw [List.append_assoc, List.append_assoc] at same
    exact legible properA properB follows next (List.append_cancel_left same)
  intro as bs properAs properBs behind after follows next same
  cases as with
  | nil => exact absurd rfl properAs.1
  | cons a rest =>
      cases bs with
      | nil => exact absurd rfl properBs.1
      | cons b others =>
          rw [Slot.listed, Slot.listed, List.append_assoc, List.append_assoc] at same
          obtain ⟨first, same⟩ := legible (properAs.2 a List.mem_cons_self)
            (properBs.2 b List.mem_cons_self) (follows.flatMap opens rest)
            (next.flatMap opens others) same
          obtain ⟨later, ended⟩ := behindComma
            (fun c member => properAs.2 c (List.mem_cons_of_mem _ member))
            (fun c member => properBs.2 c (List.mem_cons_of_mem _ member)) follows next same
          exact ⟨by rw [List.map_cons, List.map_cons, first, later], ended⟩

/-- A clause behind a keyword, which is left out where there is nothing to say. -/
theorem clause {keyword : String} {absent : α -> Bool}
    (legible : Legible openings write read fun a => absent a = false ∧ proper a)
    (alike : ∀ a b, absent a = true -> absent b = true -> read a = read b)
    (begins : keyword.toList ≠ []) (distinct : ∀ k ∈ openings, apart keyword k = true) :
    Legible openings (Slot.clause keyword absent write) read proper := by
  intro a b properA properB behind after follows next same
  unfold Slot.clause at same
  cases absentA : absent a <;> cases absentB : absent b <;>
    simp only [absentA, absentB, if_true, Bool.false_eq_true, if_false, List.nil_append,
      List.append_assoc] at same
  · exact legible ⟨absentA, properA⟩ ⟨absentB, properB⟩ follows next (List.append_cancel_left same)
  · exact absurd (same ▸ next) (Slot.not_follows_of_apart begins distinct)
  · exact absurd (same ▸ follows) (Slot.not_follows_of_apart begins distinct)
  · exact ⟨alike a b absentA absentB, same⟩

/-- A clause for what may not be there. -/
theorem option {keyword : String} (legible : Legible openings write read proper)
    (begins : keyword.toList ≠ []) (distinct : ∀ k ∈ openings, apart keyword k = true) :
    Legible openings (Slot.clause keyword Option.isNone fun given => given.elim [] write)
      (Option.map read) fun given => ∀ a ∈ given, proper a := by
  refine clause ?_ ?_ begins distinct
  · rintro (_ | a) (_ | b) ⟨thereA, properA⟩ ⟨thereB, properB⟩ behind after follows next same
    · cases thereA
    · cases thereA
    · cases thereB
    · obtain ⟨alike, ended⟩ := legible (properA a rfl) (properB b rfl) follows next same
      exact ⟨congrArg some alike, ended⟩
  · intro first second absent none
    rw [Option.isNone_iff_eq_none.mp absent, Option.isNone_iff_eq_none.mp none]

/-- A list behind a keyword, or neither. -/
theorem listClause (legible : Legible (", " :: openings) write read proper) (keyword : String)
    (begins : keyword.toList ≠ [])
    (distinct : ∀ k ∈ [keyword, ", "], ∀ l ∈ openings, apart k l = true) :
    Legible openings (Slot.clause keyword List.isEmpty (Slot.listed write)) (List.map read)
      fun as => ∀ a ∈ as, proper a := by
  have items := legible.listed (distinct ", " (by simp))
  refine clause ?_ ?_ begins (distinct keyword List.mem_cons_self)
  · intro as bs properAs properBs behind after follows next same
    exact items ⟨List.isEmpty_eq_false_iff.mp properAs.1, properAs.2⟩
      ⟨List.isEmpty_eq_false_iff.mp properBs.1, properBs.2⟩ follows next same
  · intro as bs none also
    rw [List.isEmpty_iff.mp none, List.isEmpty_iff.mp also]

end Legible
end SqlGate
