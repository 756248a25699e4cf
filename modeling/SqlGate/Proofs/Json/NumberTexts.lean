import Mathlib.Data.List.TakeWhile
import SqlGate.Json.Token

namespace SqlGate
namespace Json

/-!
# Numbers as they may be written

A number is written with a minus sign or without, with digits that begin with
no needless zero, and perhaps with a fraction and an exponent.  It writes an
integer if it has neither a fraction nor an exponent and is not zero behind a
minus sign.  What is read as a number is written so, up to where it ends.
-/

/-- Digits in front of a point: at least one, and no zero before others. -/
structure IsFront (front : List Char) : Prop where
  nonempty : front ≠ []
  solid : ∀ c ∈ front, c.isDigit = true
  plain : front.head? = some '0' -> front.length = 1

/-- Digits: at least one. -/
structure Digits where
  chars : List Char
  nonempty : chars ≠ []
  solid : ∀ c ∈ chars, c.isDigit = true

/-- An exponent. -/
structure ExponentText where
  letter : Char
  sign : List Char
  digits : Digits
  isLetter : letter = 'e' ∨ letter = 'E'
  isSign : sign = [] ∨ sign = ['+'] ∨ sign = ['-']

/-- A number. -/
structure NumberText where
  negative : Bool
  front : List Char
  behind : Option Digits
  exponent : Option ExponentText
  isFront : IsFront front

namespace ExponentText

def chars (e : ExponentText) : List Char :=
  e.letter :: (e.sign ++ e.digits.chars)

def negative (e : ExponentText) : Bool :=
  decide (e.sign = ['-'])

def value (e : ExponentText) : Int :=
  if e.negative then -Int.ofNat (Number.digitsValue e.digits.chars)
  else Int.ofNat (Number.digitsValue e.digits.chars)

end ExponentText

namespace NumberText

def fractionChars : Option Digits -> List Char
  | none => []
  | some digits => '.' :: digits.chars

def exponentChars : Option ExponentText -> List Char
  | none => []
  | some e => e.chars

def unsigned (t : NumberText) : List Char :=
  t.front ++ (fractionChars t.behind ++ exponentChars t.exponent)

def chars (t : NumberText) : List Char :=
  if t.negative then '-' :: t.unsigned else t.unsigned

/-- The integer that is written, if it is one. -/
def integer? (t : NumberText) : Option Int :=
  match t.behind, t.exponent with
  | none, none =>
      let digits := Nat.ofDigitChars 10 t.front 0
      if !t.negative then some digits else if digits = 0 then none else some (-digits)
  | _, _ => none

def literal (t : NumberText) : Literal :=
  ⟨t.negative, t.front, t.behind.map Digits.chars, t.exponent.map ExponentText.value⟩

theorem chars_ne_nil (t : NumberText) : t.chars ≠ [] := by
  rw [chars]
  split
  · exact List.cons_ne_nil _ _
  · exact List.append_ne_nil_of_left_ne_nil t.isFront.nonempty _

end NumberText

/-! ## What is taken for a number -/

/-- Digits as they stand in front of a text. -/
theorem exists_digits {cs : List Char} (some : (cs.takeWhile Char.isDigit).isEmpty = false) :
    ∃ digits : Digits, digits.chars = cs.takeWhile Char.isDigit
      ∧ cs = digits.chars ++ cs.dropWhile Char.isDigit := by
  have nonempty : cs.takeWhile Char.isDigit ≠ [] := by
    rw [Ne, ← List.isEmpty_iff, some]
    exact Bool.false_ne_true
  exact ⟨⟨_, nonempty, fun c member => List.mem_takeWhile_imp member⟩, rfl,
    (List.takeWhile_append_dropWhile (p := Char.isDigit) (l := cs)).symm⟩

theorem exists_fraction {cs rest : List Char} {behind : Option (List Char)}
    (read : readBehind cs = some (behind, rest)) :
    ∃ fraction : Option Digits, fraction.map Digits.chars = behind
      ∧ cs = NumberText.fractionChars fraction ++ rest := by
  unfold readBehind at read
  split at read
  · rename_i behind
    dsimp only at read
    split at read
    · cases read
    · rename_i given
      obtain ⟨digits, taken, whole⟩ := exists_digits (Bool.eq_false_iff.mpr given)
      cases read
      refine ⟨some digits, congrArg some taken, ?_⟩
      exact congrArg (List.cons '.') whole
  · cases read
    exact ⟨none, rfl, rfl⟩

/-- A sign as it stands in front of a text. -/
theorem exists_sign (cs : List Char) :
    ∃ sign, (sign = [] ∨ sign = ['+'] ∨ sign = ['-']) ∧ cs = sign ++ (Number.takeSign cs).2
      ∧ (Number.takeSign cs).1 = decide (sign = ['-']) := by
  unfold Number.takeSign
  split
  · exact ⟨['-'], .inr (.inr rfl), rfl, rfl⟩
  · exact ⟨['+'], .inr (.inl rfl), rfl, rfl⟩
  · exact ⟨[], .inl rfl, rfl, rfl⟩

theorem exists_exponent {cs rest : List Char} {exponent : Option Int}
    (read : readExponent cs = some (exponent, rest)) :
    ∃ e : Option ExponentText, e.map ExponentText.value = exponent
      ∧ cs = NumberText.exponentChars e ++ rest := by
  unfold readExponent at read
  split at read
  · cases read
    exact ⟨none, rfl, rfl⟩
  · rename_i letter behind
    split at read
    · rename_i isLetter
      rw [Bool.or_eq_true, decide_eq_true_eq, decide_eq_true_eq] at isLetter
      obtain ⟨found, takes, same⟩ := Option.map_eq_some_iff.mp read
      cases same
      rw [Number.takeExponent, if_pos isLetter] at takes
      dsimp only at takes
      split at takes
      · cases takes
      · rename_i given
        obtain ⟨sign, isSign, signed, negative⟩ := exists_sign behind
        obtain ⟨digits, taken, whole⟩ := exists_digits (Bool.eq_false_iff.mpr given)
        rw [negative, ← taken] at takes
        cases takes
        refine ⟨some ⟨letter, sign, digits, isLetter, isSign⟩, ?_, ?_⟩
        · rfl
        · change letter :: behind = letter :: (sign ++ digits.chars) ++ _
          rw [List.cons_append, List.append_assoc, ← whole, ← signed]
    · cases read
      exact ⟨none, rfl, rfl⟩

/-- Whatever is read as a number is the text of one. -/
theorem exists_numberText {negative : Bool} {cs rest : List Char} {literal : Literal}
    (read : readNumber negative cs = some (literal, rest)) :
    ∃ t : NumberText, t.negative = negative ∧ t.literal = literal ∧ cs = t.unsigned ++ rest := by
  unfold readNumber at read
  dsimp only at read
  split at read
  · cases read
  · rename_i accepted
    rw [Bool.or_eq_true, Bool.and_eq_true, not_or, beq_iff_eq, bne_iff_ne] at accepted
    obtain ⟨digits, taken, whole⟩ := exists_digits (Bool.eq_false_iff.mpr accepted.1)
    split at read
    · cases read
    · rename_i behind after pointed
      obtain ⟨found, raised, same⟩ := Option.map_eq_some_iff.mp read
      cases same
      obtain ⟨fraction, given, fractional⟩ := exists_fraction pointed
      obtain ⟨exponent, power, exponential⟩ := exists_exponent raised
      have isFront : IsFront digits.chars := by
        refine ⟨digits.nonempty, digits.solid, ?_⟩
        intro zero
        by_contra long
        rw [taken] at zero long
        exact accepted.2 ⟨zero, long⟩
      refine ⟨⟨negative, digits.chars, fraction, exponent, isFront⟩, rfl, ?_, ?_⟩
      · rw [NumberText.literal, given, power, ← taken]
      · rw [NumberText.unsigned, List.append_assoc, List.append_assoc, ← exponential, ← fractional]
        exact whole

end Json
end SqlGate
