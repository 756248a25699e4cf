import Mathlib.Algebra.Group.Nat.Defs
import Mathlib.Data.List.Basic
import SqlGate.Number.Reading
import SqlGate.Text.Blank

namespace SqlGate

/-!
# Decimal digits read back

Every number in a text is written by `Text.ofNat`, perhaps behind a sign or
zeros.  The readers of the library differ in what they accept around the digits,
but all of them find the number again.
-/

namespace Text

/-- A run ends in front of what is not part of it. -/
theorem span_append {p : Char -> Bool} {run : List Char} (behind : List Char)
    (inside : ∀ c ∈ run, p c = true) (ended : ∀ c ∈ behind.head?, p c = false) :
    (run ++ behind).takeWhile p = run ∧ (run ++ behind).dropWhile p = behind := by
  rw [List.takeWhile_append_of_pos inside, List.dropWhile_append_of_pos inside]
  cases behind with
  | nil => simp
  | cons c rest => simp [ended c rfl]

theorem toNat_of_isDigit {c : Char} (digit : c.isDigit = true) :
    48 ≤ c.toNat ∧ c.toNat ≤ 57 := by
  simpa [Char.isDigit, UInt32.le_iff_toNat_le] using digit

theorem isBlank_of_isDigit {c : Char} (digit : c.isDigit = true) : isBlank c = false := by
  have code := toNat_of_isDigit digit
  simp [isBlank]
  omega

/-- A run of digits is read as the number it writes. -/
theorem natFromDigits_of_forall {cs : List Char} (digits : ∀ c ∈ cs, c.isDigit = true)
    (value : Nat) : natFromDigits value cs = some (Nat.ofDigitChars 10 cs value) := by
  induction cs generalizing value with
  | nil => rw [natFromDigits, Nat.ofDigitChars_nil]
  | cons c cs ih =>
      have digit : digit? c = some (c.toNat - '0'.toNat) := by
        rw [digit?, digits c List.mem_cons_self]
        rfl
      rw [natFromDigits, digit, Nat.ofDigitChars_cons, Nat.mul_comm 10 value]
      exact ih (fun d member => digits d (List.mem_cons_of_mem c member)) _

theorem natFromDigits_eq_some_iff {cs : List Char} {value n : Nat} :
    natFromDigits value cs = some n
      ↔ (∀ c ∈ cs, c.isDigit = true) ∧ Nat.ofDigitChars 10 cs value = n := by
  constructor
  · intro found
    have digits : ∀ c ∈ cs, c.isDigit = true := by
      induction cs generalizing value with
      | nil => exact List.forall_mem_nil _
      | cons c cs ih =>
          rw [natFromDigits, digit?] at found
          split at found
          · rename_i isDigit
            split at isDigit
            · rename_i digit
              exact List.forall_mem_cons.mpr ⟨digit, ih found⟩
            · cases isDigit
          · cases found
    rw [natFromDigits_of_forall digits] at found
    exact ⟨digits, Option.some.inj found⟩
  · rintro ⟨digits, rfl⟩
    exact natFromDigits_of_forall digits value

/-- A text writes a natural number: at least one digit, perhaps behind a plus sign. -/
def IsDecimal (s : String) (n : Nat) : Prop :=
  ∃ digits : List Char, (s.toList = digits ∨ s.toList = '+' :: digits) ∧ digits ≠ []
    ∧ (∀ c ∈ digits, c.isDigit = true) ∧ Nat.ofDigitChars 10 digits 0 = n

theorem digitsToNat?_eq_some_iff {cs : List Char} {n : Nat} :
    digitsToNat? cs = some n
      ↔ cs ≠ [] ∧ (∀ c ∈ cs, c.isDigit = true) ∧ Nat.ofDigitChars 10 cs 0 = n := by
  cases cs with
  | nil => exact iff_of_false (fun same => nomatch same) fun given => given.1 rfl
  | cons c cs =>
      rw [digitsToNat?, natFromDigits_eq_some_iff]
      · exact (and_iff_right (List.cons_ne_nil c cs)).symm
      · exact List.cons_ne_nil c cs

/-- An unsigned number of so many bits is read from the texts that write it. -/
theorem unsigned?_eq_some_iff {width n : Nat} {s : String} :
    unsigned? width s = some n ↔ IsDecimal s n ∧ n < 2 ^ width := by
  have bounded : ∀ found : Option Nat, found.filter (· < Nat.pow 2 width) = some n
      ↔ found = some n ∧ n < 2 ^ width := by
    intro found
    rw [Option.filter_eq_some_iff, decide_eq_true_eq]
    rfl
  rw [unsigned?, bounded, IsDecimal]
  apply and_congr_left
  intro _
  split
  · rename_i rest signed
    rw [digitsToNat?_eq_some_iff]
    constructor
    · exact fun given => ⟨rest, .inr signed, given⟩
    · rintro ⟨digits, whole | behind, given⟩
      · have plus := given.2.1 '+' (by rw [← whole, signed]; exact List.mem_cons_self)
        cases plus
      · rwa [(List.cons.inj (signed.symm.trans behind)).2]
  · rename_i unsigned
    rw [digitsToNat?_eq_some_iff]
    constructor
    · exact fun given => ⟨s.toList, .inl rfl, given⟩
    · rintro ⟨digits, whole | behind, given⟩
      · rwa [whole]
      · exact absurd behind (unsigned digits)

theorem isDigit_of_mem_ofNat {n : Nat} {c : Char} (member : c ∈ ofNat n) : c.isDigit = true :=
  Nat.isDigit_of_mem_toDigits (by decide) (by decide) member

theorem natFromDigits_ofNat (n : Nat) : natFromDigits 0 (ofNat n) = some n := by
  rw [natFromDigits_of_forall fun _ => isDigit_of_mem_ofNat, ofNat, Nat.ofDigitChars_ten_toDigits]

/-- Digits begin with a digit, whatever they write. -/
theorem exists_ofNat_eq_cons (n : Nat) :
    ∃ c rest, ofNat n = c :: rest ∧ c.isDigit = true := by
  cases written : ofNat n with
  | nil => exact absurd written Nat.toDigits_ne_nil
  | cons c rest =>
      have member : c ∈ ofNat n := by
        rw [written]
        exact List.mem_cons_self
      exact ⟨c, rest, rfl, isDigit_of_mem_ofNat member⟩

theorem digitsToNat?_ofNat (n : Nat) : digitsToNat? (ofNat n) = some n := by
  rcases exists_ofNat_eq_cons n with ⟨c, rest, written, -⟩
  have found := natFromDigits_ofNat n
  rw [written] at found ⊢
  exact found

/-- A number of so many bits is read back from its text, sign and all. -/
theorem signed?_ofInt {width : Nat} {n : Int} (low : -Int.ofNat (Nat.pow 2 (width - 1)) ≤ n)
    (high : n < Int.ofNat (Nat.pow 2 (width - 1))) : signed? width (ofInt n) = some n := by
  have fits : (decide (-Int.ofNat (Nat.pow 2 (width - 1)) ≤ n)
      && decide (n < Int.ofNat (Nat.pow 2 (width - 1)))) = true := by
    rw [decide_eq_true low, decide_eq_true high]
    rfl
  cases n with
  | ofNat k =>
      rcases exists_ofNat_eq_cons k with ⟨c, rest, written, digit⟩
      have found := digitsToNat?_ofNat k
      rw [written] at found
      have noPlus : c ≠ '+' := by
        rintro rfl
        cases digit
      have noMinus : c ≠ '-' := by
        rintro rfl
        cases digit
      rw [signed?, ofInt, String.toList_ofList, written]
      split
      · rename_i same
        exact absurd (List.cons.inj same).1 noPlus
      · rename_i same
        exact absurd (List.cons.inj same).1 noMinus
      · rw [found]
        exact Option.filter_some_pos fits
  | negSucc k =>
      rw [signed?, ofInt, String.toList_ofList]
      change Option.filter _ ((digitsToNat? (ofNat (k + 1))).map fun n => -Int.ofNat n) = _
      rw [digitsToNat?_ofNat]
      exact Option.filter_some_pos fits

/-! ## Numbers of a fixed width -/

theorem toList_padded (width n : Nat) :
    (padded width n).toList = List.replicate (width - (ofNat n).length) '0' ++ ofNat n :=
  String.toList_ofList

theorem isDigit_of_mem_padded {width n : Nat} {c : Char} (member : c ∈ (padded width n).toList) :
    c.isDigit = true := by
  rw [toList_padded, List.mem_append, List.mem_replicate] at member
  rcases member with ⟨-, rfl⟩ | member
  · decide
  · exact isDigit_of_mem_ofNat member

/-- A number that fits is written with exactly as many digits as it may have. -/
theorem length_padded {width n : Nat} (given : 0 < width) (fits : n < 10 ^ width) :
    (padded width n).toList.length = width := by
  have short : (ofNat n).length ≤ width :=
    (Nat.length_toDigits_le_iff (by decide) given).mpr fits
  rw [toList_padded, List.length_append, List.length_replicate]
  omega

end Text

namespace Number

theorem digitsValue_eq (cs : List Char) : digitsValue cs = Nat.ofDigitChars 10 cs 0 := by
  rw [digitsValue, Nat.ofDigitChars_eq_foldl]
  simp only [Nat.mul_comm]

theorem digitsValue_padded (width n : Nat) : digitsValue (Text.padded width n).toList = n := by
  rw [digitsValue_eq, Text.toList_padded, Nat.ofDigitChars_append,
    Nat.ofDigitChars_replicate_zero, Nat.mul_zero, Text.ofNat, Nat.ofDigitChars_ten_toDigits]

end Number
end SqlGate
