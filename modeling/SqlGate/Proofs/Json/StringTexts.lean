import SqlGate.Json.Printer
import SqlGate.Json.Token
import SqlGate.Proofs.Bytes.Numbers

namespace SqlGate
namespace Json

/-!
# Strings as they may be written

A character of a string is written by itself, by a short escape, by the four
digits of its code, or by the digits of two code units that are a pair; a
quote, a backslash and the controls are written by an escape only.  What is
read up to a closing quote is written so and has what it writes for its value;
where one half of a pair stands without the other there is none.  The writer of
documents uses the shortest of these ways.
-/

/-- What is written inside the quotes of a string, and what it writes. -/
inductive Writes : List Char -> List Char -> Prop
  | nil : Writes [] []
  | plain {c : Char} {inside content : List Char} (noQuote : c ≠ '"') (noEscape : c ≠ '\\')
      (printed : 0x20 ≤ c.toNat) (rest : Writes inside content) :
      Writes (c :: inside) (c :: content)
  | short {e c : Char} {inside content : List Char} (stands : shortEscape? e = some c)
      (rest : Writes inside content) : Writes ('\\' :: e :: inside) (c :: content)
  | unit {h₁ h₂ h₃ h₄ c : Char} {inside content : List Char}
      (digits : Bytes.Hex.natFrom? 0 [h₁, h₂, h₃, h₄] = some c.toNat)
      (rest : Writes inside content) :
      Writes ('\\' :: 'u' :: h₁ :: h₂ :: h₃ :: h₄ :: inside) (c :: content)
  | pair {h₁ h₂ h₃ h₄ l₁ l₂ l₃ l₄ c : Char} {high low : Nat} {inside content : List Char}
      (highDigits : Bytes.Hex.natFrom? 0 [h₁, h₂, h₃, h₄] = some high)
      (lowDigits : Bytes.Hex.natFrom? 0 [l₁, l₂, l₃, l₄] = some low)
      (isHigh : 0xD800 ≤ high ∧ high ≤ 0xDBFF) (isLow : 0xDC00 ≤ low ∧ low ≤ 0xDFFF)
      (code : c.toNat = 0x10000 + (high - 0xD800) * 0x400 + (low - 0xDC00))
      (rest : Writes inside content) :
      Writes ('\\' :: 'u' :: h₁ :: h₂ :: h₃ :: h₄ :: '\\' :: 'u' :: l₁ :: l₂ :: l₃ :: l₄ :: inside)
        (c :: content)

/-- What is written inside the quotes of a string, and the pieces it is written by. -/
inductive Escapes : List Char -> List Piece -> Prop
  | nil : Escapes [] []
  | plain {c : Char} {inside : List Char} {pieces : List Piece} (noQuote : c ≠ '"')
      (noEscape : c ≠ '\\') (printed : 0x20 ≤ c.toNat) (rest : Escapes inside pieces) :
      Escapes (c :: inside) (.character c :: pieces)
  | short {e c : Char} {inside : List Char} {pieces : List Piece}
      (stands : shortEscape? e = some c) (rest : Escapes inside pieces) :
      Escapes ('\\' :: e :: inside) (.character c :: pieces)
  | unit {h₁ h₂ h₃ h₄ : Char} {code : Nat} {inside : List Char} {pieces : List Piece}
      (digits : Bytes.Hex.natFrom? 0 [h₁, h₂, h₃, h₄] = some code) (rest : Escapes inside pieces) :
      Escapes ('\\' :: 'u' :: h₁ :: h₂ :: h₃ :: h₄ :: inside) (.unit code :: pieces)

/-- What is written inside the quotes of a string, and its value: a half pair has none. -/
inductive Quotes : List Char -> Option String -> Prop
  | whole {inside content : List Char} (writes : Writes inside content) :
      Quotes inside (some (String.ofList content))
  | half {inside : List Char} {pieces : List Piece} (escapes : Escapes inside pieces)
      (half : joinPieces pieces = none) : Quotes inside none

variable {inside content : List Char} {pieces : List Piece}

/-! ## Pieces of a string -/

/-- Whether a piece stands for a character wherever it stands. -/
def Piece.Is (piece : Piece) (c : Char) : Prop :=
  ∀ pieces, joinPieces (piece :: pieces) = (joinPieces pieces).map (c :: ·)

theorem Piece.is_character (c : Char) : (Piece.character c).Is c := fun _ => rfl

/-- A code unit that is the code of a character stands for it: no character has the code of half a
pair. -/
theorem Piece.is_unit (c : Char) : (Piece.unit c.toNat).Is c := by
  have whole : ¬ (0xD800 ≤ c.toNat ∧ c.toNat < 0xE000) := by
    rcases c.valid with below | ⟨above, -⟩
    · exact fun half => absurd below (Nat.not_lt_of_le half.1)
    · exact fun half => absurd half.2 (Nat.not_lt_of_le above)
  have leading : isLeading c.toNat = false := by
    simp [isLeading]
    omega
  have trailing : isTrailing c.toNat = false := by
    simp [isTrailing]
    omega
  intro pieces
  cases pieces with
  | nil => simp [joinPieces, leading, trailing, Char.ofNat_toNat]
  | cons piece rest => cases piece <;> simp [joinPieces, leading, trailing, Char.ofNat_toNat]

theorem readPieces_short {e c : Char} (short : shortEscape? e = some c) (rest : List Char) :
    readPieces ('\\' :: e :: rest)
      = (readPieces rest).map fun found => (.character c :: found.1, found.2) := by
  have noUnit : e ≠ 'u' := by
    rintro rfl
    cases short
  rw [readPieces, short]
  · cases readPieces rest <;> rfl
  · exact fun _ _ _ _ _ same => absurd same noUnit

theorem readPieces_unit {a b c d : Char} {code : Nat}
    (digits : Bytes.Hex.natFrom? 0 [a, b, c, d] = some code) (rest : List Char) :
    readPieces ('\\' :: 'u' :: a :: b :: c :: d :: rest)
      = (readPieces rest).map fun found => (.unit code :: found.1, found.2) := by
  rw [readPieces, digits]
  cases readPieces rest <;> rfl

theorem readPieces_plain {c : Char} (noQuote : c ≠ '"') (noEscape : c ≠ '\\')
    (printed : ¬ c.toNat < 0x20) (rest : List Char) :
    readPieces (c :: rest)
      = (readPieces rest).map fun found => (.character c :: found.1, found.2) := by
  rw [readPieces, if_neg noQuote, if_neg]
  · simp [noEscape, printed]
  · exact fun _ _ _ _ _ same => absurd same noEscape
  · exact fun _ _ same => absurd same noEscape

/-- A pair of code units stands for one character. -/
theorem joinPieces_pair {high low : Nat} (leading : isLeading high = true)
    (trailing : isTrailing low = true) (pieces : List Piece) :
    joinPieces (.unit high :: .unit low :: pieces)
      = (joinPieces pieces).map
          (Char.ofNat (0x10000 + (high - 0xD800) * 0x400 + (low - 0xDC00)) :: ·) := by
  rw [joinPieces, if_pos leading, if_pos trailing]

/-- A string is read up to its closing quote. -/
theorem Escapes.readPieces (escapes : Escapes inside pieces) (rest : List Char) :
    readPieces (inside ++ '"' :: rest) = some (pieces, rest) := by
  induction escapes with
  | nil => rfl
  | plain noQuote noEscape printed _ ih =>
      rw [List.cons_append, readPieces_plain noQuote noEscape (Nat.not_lt_of_le printed), ih]
      rfl
  | short stands _ ih =>
      rw [List.cons_append, List.cons_append, readPieces_short stands, ih]
      rfl
  | unit digits _ ih =>
      simp only [List.cons_append]
      rw [readPieces_unit digits, ih]
      rfl

/-- Whatever is read up to a closing quote is the inside of a string. -/
theorem exists_escapes {cs rest : List Char} (read : readPieces cs = some (pieces, rest)) :
    ∃ inside, Escapes inside pieces ∧ cs = inside ++ '"' :: rest := by
  induction cs using readPieces.induct generalizing pieces with
  | case1 => cases read
  | case2 a b c d behind code found reads hex ih =>
      rw [readPieces_unit hex, reads] at read
      cases read
      obtain ⟨inside, escapes, rfl⟩ := ih reads
      exact ⟨_, .unit hex escapes, rfl⟩
  | case3 a b c d behind fails ih =>
      rw [Json.readPieces] at read
      split at read
      · rename_i hex reads
        exact absurd reads (fails _ _ hex)
      · cases read
  | case4 e behind noUnit c found reads short ih =>
      rw [readPieces_short short, reads] at read
      cases read
      obtain ⟨inside, escapes, rfl⟩ := ih reads
      exact ⟨_, .short short escapes, rfl⟩
  | case5 e behind noUnit fails ih =>
      rw [Json.readPieces] at read
      · split at read
        · rename_i short reads
          exact absurd reads (fails _ _ short)
        · cases read
      · exact noUnit
  | case6 behind noUnit noShort =>
      rw [Json.readPieces, if_pos rfl] at read
      · cases read
        exact ⟨[], .nil, rfl⟩
      · exact noUnit
      · exact noShort
  | case7 c behind noUnit noShort other refused =>
      rw [Json.readPieces, if_neg other, if_pos refused] at read
      · cases read
      · exact noUnit
      · exact noShort
  | case8 c behind noUnit noShort other kept ih =>
      rw [Json.readPieces, if_neg other, if_neg kept] at read
      · obtain ⟨found, reads, same⟩ := Option.map_eq_some_iff.mp read
        cases same
        obtain ⟨inside, escapes, rfl⟩ := ih reads
        rw [Bool.or_eq_true, not_or, decide_eq_true_eq, decide_eq_true_eq] at kept
        exact ⟨_, .plain other kept.1 (Nat.le_of_not_lt kept.2) escapes, rfl⟩
      · exact noUnit
      · exact noShort

/-! ## Values of a string -/

/-- What is written has pieces that are joined to it. -/
theorem Writes.exists_pieces (writes : Writes inside content) :
    ∃ pieces, Escapes inside pieces ∧ joinPieces pieces = some content := by
  induction writes with
  | nil => exact ⟨[], .nil, rfl⟩
  | @plain c _ _ noQuote noEscape printed _ ih =>
      obtain ⟨pieces, escapes, joined⟩ := ih
      refine ⟨_, .plain noQuote noEscape printed escapes, ?_⟩
      rw [Piece.is_character, joined]
      rfl
  | @short e c _ _ stands _ ih =>
      obtain ⟨pieces, escapes, joined⟩ := ih
      refine ⟨_, .short stands escapes, ?_⟩
      rw [Piece.is_character, joined]
      rfl
  | @unit _ _ _ _ c _ _ digits _ ih =>
      obtain ⟨pieces, escapes, joined⟩ := ih
      refine ⟨_, .unit digits escapes, ?_⟩
      rw [Piece.is_unit, joined]
      rfl
  | @pair _ _ _ _ _ _ _ _ c high low _ _ highDigits lowDigits isHigh isLow code _ ih =>
      obtain ⟨pieces, escapes, joined⟩ := ih
      have leading : isLeading high = true := by
        simp [isLeading]
        omega
      have trailing : isTrailing low = true := by
        simp [isTrailing]
        omega
      refine ⟨_, .unit highDigits (.unit lowDigits escapes), ?_⟩
      rw [joinPieces_pair leading trailing, joined, ← code, Char.ofNat_toNat]
      rfl

theorem toNat_ofNat {code : Nat} (valid : code.isValidChar) : (Char.ofNat code).toNat = code := by
  rw [Char.ofNat, dif_pos valid]
  rfl

/-- Four digits that are no half of a pair are the code of a character. -/
theorem toNat_ofNat_of_digits {a b c d : Char} {code : Nat}
    (digits : Bytes.Hex.natFrom? 0 [a, b, c, d] = some code)
    (whole : ¬ (isLeading code || isTrailing code) = true) : (Char.ofNat code).toNat = code := by
  have small : code < 1 * 16 ^ 4 := Bytes.Hex.lt_of_natFrom? digits
  refine toNat_ofNat ?_
  simp [isLeading, isTrailing] at whole
  simp only [Nat.isValidChar]
  omega

/-- Pieces that are joined are what is written. -/
theorem Escapes.writes (escapes : Escapes inside pieces)
    (joined : joinPieces pieces = some content) : Writes inside content := by
  induction pieces using joinPieces.induct generalizing inside content with
  | case1 =>
      cases escapes
      cases joined
      exact .nil
  | case2 c rest ih =>
      obtain ⟨others, joins, rfl⟩ := Option.map_eq_some_iff.mp joined
      cases escapes with
      | plain noQuote noEscape printed behind =>
          exact .plain noQuote noEscape printed (ih behind joins)
      | short stands behind => exact .short stands (ih behind joins)
  | case3 high low rest leading trailing ih =>
      rw [joinPieces_pair leading trailing] at joined
      obtain ⟨others, joins, rfl⟩ := Option.map_eq_some_iff.mp joined
      cases escapes with
      | unit highDigits behind =>
          cases behind with
          | unit lowDigits behind =>
              simp [isLeading, isTrailing] at leading trailing
              refine .pair highDigits lowDigits leading trailing (toNat_ofNat ?_) (ih behind joins)
              simp only [Nat.isValidChar]
              omega
  | case4 high low rest leading single =>
      rw [joinPieces, if_pos leading, if_neg single] at joined
      cases joined
  | case5 high low rest leading trailing =>
      rw [joinPieces, if_neg leading, if_pos trailing] at joined
      cases joined
  | case6 high low rest leading trailing ih =>
      rw [joinPieces, if_neg leading, if_neg trailing] at joined
      obtain ⟨others, joins, rfl⟩ := Option.map_eq_some_iff.mp joined
      cases escapes with
      | unit digits behind =>
          have code := toNat_ofNat_of_digits digits (by simp [leading, trailing])
          exact .unit (by rw [code, digits]) (ih behind joins)
  | case7 code rest noUnit half =>
      rw [joinPieces, if_pos half] at joined
      · cases joined
      · exact noUnit
  | case8 code rest noUnit whole ih =>
      rw [joinPieces, if_neg whole] at joined
      · obtain ⟨others, joins, rfl⟩ := Option.map_eq_some_iff.mp joined
        cases escapes with
        | unit digits behind =>
            have code := toNat_ofNat_of_digits digits whole
            exact .unit (by rw [code, digits]) (ih behind joins)
      · exact noUnit

theorem Quotes.exists_pieces {value : Option String} (quotes : Quotes inside value) :
    ∃ pieces, Escapes inside pieces ∧ (joinPieces pieces).map String.ofList = value := by
  cases quotes with
  | whole writes =>
      obtain ⟨pieces, escapes, joined⟩ := writes.exists_pieces
      exact ⟨pieces, escapes, by rw [joined, Option.map_some]⟩
  | half escapes half => exact ⟨_, escapes, by rw [half, Option.map_none]⟩

theorem Escapes.quotes (escapes : Escapes inside pieces) :
    Quotes inside ((joinPieces pieces).map String.ofList) := by
  cases joined : joinPieces pieces with
  | none => exact .half escapes joined
  | some content => exact .whole (escapes.writes joined)

/-! ## Strings of documents -/

/-- A character is written by an escape only where it needs one. -/
theorem writes_escape (c : Char) (rest : Writes inside content) :
    Writes (escape c ++ inside) (c :: content) := by
  have short : ∀ {e : Char}, shortEscape? e = some c -> escape c = ['\\', e] ->
      Writes (escape c ++ inside) (c :: content) := by
    intro e stands written
    rw [written]
    exact .short stands rest
  by_cases quote : c = '"'
  · subst quote
    exact short rfl rfl
  by_cases backslash : c = '\\'
  · subst backslash
    exact short rfl rfl
  by_cases backspace : c = '\x08'
  · subst backspace
    exact short rfl rfl
  by_cases tab : c = '\t'
  · subst tab
    exact short rfl rfl
  by_cases line : c = '\n'
  · subst line
    exact short rfl rfl
  by_cases page : c = '\x0c'
  · subst page
    exact short rfl rfl
  by_cases carriage : c = '\r'
  · subst carriage
    exact short rfl rfl
  rw [escape, if_neg quote, if_neg backslash, if_neg backspace, if_neg tab, if_neg line,
    if_neg page, if_neg carriage]
  by_cases control : c.toNat < 0x20
  · have codes : ∀ code < 0x20, Bytes.Hex.natFrom? 0 ['0', '0', Bytes.Hex.lowerDigit (code / 16),
        Bytes.Hex.lowerDigit (code % 16)] = some code := by decide
    rw [if_pos control]
    exact .unit (codes c.toNat control) rest
  · rw [if_neg control]
    exact .plain quote backslash (Nat.le_of_not_lt control) rest

theorem writes_escapes (content : List Char) : Writes (content.flatMap escape) content := by
  induction content with
  | nil => exact .nil
  | cons c content ih =>
      rw [List.flatMap_cons]
      exact writes_escape c ih

end Json
end SqlGate
