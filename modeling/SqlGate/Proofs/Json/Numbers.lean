import SqlGate.Proofs.Json.Cutting
import SqlGate.Proofs.Text.Digits

namespace SqlGate

/-!
# Numbers of documents

A number is one token wherever nothing follows that goes on with it.  Exactly
the integers that fit into 64 bits, signed or not, have a whole number for
their value.  A whole number is written by its digits, and a double with a point
or an exponent, so it is never taken for a whole number.  Whether a double is
the value of its own text again is another matter: a text is rounded once in
each step when it is read.
-/

namespace Text

/-- Only zero is written with a zero in front. -/
theorem head?_ofNat_ne_zero {n : Nat} (positive : n ≠ 0) : (ofNat n).head? ≠ some '0' := by
  induction n using Nat.strong_induction_on with
  | _ n ih =>
      by_cases small : n < 10
      · have digits : ∀ n < 10, n ≠ 0 -> some n.digitChar ≠ some '0' := by decide
        rw [ofNat, Nat.toDigits_of_lt_base small]
        exact digits n small positive
      · have fewer := ih (n / 10) (by omega) (by omega)
        rw [ofNat, Nat.toDigits_of_base_le (by decide) (Nat.le_of_not_lt small),
          List.head?_append_of_ne_nil _ Nat.toDigits_ne_nil]
        exact fewer

end Text

namespace Json

/-- What goes on with no number. -/
def Closes (rest : List Char) : Prop :=
  ∀ c ∈ rest.head?, c.isDigit = false ∧ c ≠ '.' ∧ c ≠ 'e' ∧ c ≠ 'E'

theorem closes_nil : Closes [] := nofun

theorem closes_cons {c : Char} (solid : c.isDigit = false ∧ c ≠ '.' ∧ c ≠ 'e' ∧ c ≠ 'E')
    (rest : List Char) : Closes (c :: rest) := by
  intro d member
  cases member
  exact solid

theorem not_continues_of_isSpace {c : Char} (space : isSpace c = true) :
    c.isDigit = false ∧ c ≠ '.' ∧ c ≠ 'e' ∧ c ≠ 'E' := by
  simp only [isSpace, Bool.or_eq_true, beq_iff_eq] at space
  rcases space with ((rfl | rfl) | rfl) | rfl
  all_goals decide

theorem closes_gap {gap rest : List Char} (blank : IsGap gap) (closes : Closes rest) :
    Closes (gap ++ rest) := by
  cases gap with
  | nil => exact closes
  | cons c gap => exact closes_cons (not_continues_of_isSpace (blank c List.mem_cons_self)) _

/-! ## The parts of a number -/

section

variable {front digits rest : List Char}

theorem readBehind_point (some : digits ≠ []) (solid : ∀ c ∈ digits, c.isDigit = true)
    (ends : ∀ c ∈ rest.head?, c.isDigit = false) :
    readBehind ('.' :: (digits ++ rest)) = .some (.some digits, rest) := by
  obtain ⟨taken, left⟩ := Text.span_append rest solid ends
  rw [readBehind, taken, left]
  exact if_neg fun none => some (List.isEmpty_iff.mp none)

theorem readBehind_of_ne (noPoint : ∀ c ∈ rest.head?, c ≠ '.') :
    readBehind rest = some (none, rest) := by
  cases rest with
  | nil => rfl
  | cons c rest =>
      rw [readBehind]
      rintro digits same
      cases same
      exact noPoint _ rfl rfl

theorem readExponent_of_closes (closes : Closes rest) : readExponent rest = some (none, rest) := by
  cases rest with
  | nil => rfl
  | cons c rest =>
      obtain ⟨-, -, small, capital⟩ := closes c rfl
      rw [readExponent, if_neg (by simp [small, capital])]

theorem takeSign_digits {cs : List Char} (solid : ∀ c ∈ cs.head?, c.isDigit = true) :
    Number.takeSign cs = (false, cs) := by
  rw [Number.takeSign]
  · rintro rest rfl
    cases solid '-' rfl
  · rintro rest rfl
    cases solid '+' rfl

/-- An exponent is read up to where no digit follows. -/
theorem readExponent_chars (e : ExponentText) {rest : List Char} (closes : Closes rest) :
    readExponent (e.chars ++ rest) = some (some e.value, rest) := by
  obtain ⟨letter, sign, ⟨digits, nonempty, solid⟩, isLetter, isSign⟩ := e
  obtain ⟨taken, left⟩ := Text.span_append rest solid fun c member => (closes c member).1
  have begins : ∀ c ∈ (digits ++ rest).head?, c.isDigit = true := by
    rw [List.head?_append_of_ne_nil _ nonempty]
    exact fun c member => solid c (List.mem_of_head? member)
  have signed : Number.takeSign (sign ++ (digits ++ rest))
      = (decide (sign = ['-']), digits ++ rest) := by
    rcases isSign with rfl | rfl | rfl
    · exact takeSign_digits begins
    · rfl
    · rfl
  have some : digits.isEmpty = false := by
    rw [Bool.eq_false_iff, Ne, List.isEmpty_iff]
    exact nonempty
  have exponent : (decide (letter = 'e') || decide (letter = 'E')) = true := by
    rw [Bool.or_eq_true, decide_eq_true_eq, decide_eq_true_eq]
    exact isLetter
  rw [ExponentText.chars, List.cons_append, List.append_assoc, readExponent, if_pos exponent,
    Number.takeExponent, if_pos isLetter, signed]
  dsimp only
  rw [taken, left, some, if_neg Bool.false_ne_true]
  rfl

theorem readNumber_of_front {negative : Bool} (good : IsFront front)
    (ends : ∀ c ∈ rest.head?, c.isDigit = false) :
    readNumber negative (front ++ rest)
      = (readBehind rest).bind fun found => (readExponent found.2).map fun raised =>
          (⟨negative, front, found.1, raised.1⟩, raised.2) := by
  obtain ⟨taken, left⟩ := Text.span_append rest good.solid ends
  have accepted : ¬ (front.isEmpty || (front.head? == some '0' && front.length != 1)) = true := by
    rw [Bool.or_eq_true, Bool.and_eq_true, List.isEmpty_iff, beq_iff_eq, bne_iff_ne]
    rintro (none | ⟨zero, long⟩)
    · exact good.nonempty none
    · exact long (good.plain zero)
  rw [readNumber, taken, left, if_neg accepted]
  cases readBehind rest <;> rfl

/-- A digit begins a number. -/
theorem readToken_digit {c : Char} (digit : c.isDigit = true) (rest : List Char) :
    readToken c rest
      = (readNumber false (c :: rest)).map fun found => (.number found.1.value?, found.2) := by
  have other : ∀ {mark : Char}, mark.isDigit = false -> c ≠ mark := by
    rintro mark noDigit rfl
    rw [digit] at noDigit
    cases noDigit
  rw [readToken, if_neg (other rfl), if_neg (other rfl), if_neg (other rfl), if_neg (other rfl),
    if_neg (other rfl), if_neg (other rfl), if_neg (other rfl), if_neg (other rfl),
    if_neg (other rfl), if_neg (other rfl), if_neg (other rfl), if_pos digit]

end

/-! ## Numbers as tokens -/

namespace NumberText

variable (t : NumberText) {rest : List Char}

/-- Neither a fraction nor an exponent goes on with digits. -/
theorem head?_exponentChars (closes : Closes rest) :
    ∀ c ∈ (exponentChars t.exponent ++ rest).head?, c.isDigit = false ∧ c ≠ '.' := by
  cases t.exponent with
  | none => exact fun c member => ⟨(closes c member).1, (closes c member).2.1⟩
  | some e =>
      intro c member
      obtain rfl : e.letter = c := Option.some.inj member
      rcases e.isLetter with letter | letter
      · rw [letter]
        decide
      · rw [letter]
        decide

theorem readExponent_exponentChars (closes : Closes rest) :
    readExponent (exponentChars t.exponent ++ rest)
      = some (t.exponent.map ExponentText.value, rest) := by
  cases t.exponent with
  | none => exact readExponent_of_closes closes
  | some e => exact readExponent_chars e closes

/-- A number is read up to where nothing follows that goes on with it. -/
theorem readNumber_unsigned (closes : Closes rest) :
    readNumber t.negative (t.unsigned ++ rest) = some (t.literal, rest) := by
  have after := t.head?_exponentChars closes
  have digits : ∀ c ∈ (fractionChars t.behind ++ (exponentChars t.exponent ++ rest)).head?,
      c.isDigit = false := by
    cases t.behind with
    | none => exact fun c member => (after c member).1
    | some fraction =>
        intro c member
        obtain rfl : '.' = c := Option.some.inj member
        rfl
  have fraction : readBehind (fractionChars t.behind ++ (exponentChars t.exponent ++ rest))
      = some (t.behind.map Digits.chars, exponentChars t.exponent ++ rest) := by
    cases t.behind with
    | none => exact readBehind_of_ne fun c member => (after c member).2
    | some fraction =>
        exact readBehind_point fraction.nonempty fraction.solid fun c member => (after c member).1
  rw [unsigned, List.append_assoc, List.append_assoc, readNumber_of_front t.isFront digits,
    fraction, Option.bind_some, t.readExponent_exponentChars closes]
  rfl

/-- A number is one token. -/
theorem tokens?_chars (closes : Closes rest) :
    tokens? (t.chars ++ rest) = (tokens? rest).map (.number t.literal.value? :: ·) := by
  have read := t.readNumber_unsigned closes
  rw [chars]
  cases sign : t.negative with
  | true =>
      rw [sign] at read
      refine tokens?_cons rfl ?_
      change (readNumber true (t.unsigned ++ rest)).map _ = _
      rw [read]
      rfl
  | false =>
      rw [sign] at read
      obtain ⟨c, others, begins⟩ := List.exists_cons_of_ne_nil t.isFront.nonempty
      have digit : c.isDigit = true := t.isFront.solid c (begins ▸ List.mem_cons_self)
      have solid : isSpace c = false := by
        rw [Bool.eq_false_iff]
        intro space
        rw [(not_continues_of_isSpace space).1] at digit
        cases digit
      rw [unsigned, begins] at read ⊢
      refine tokens?_cons solid ?_
      rw [readToken_digit digit]
      change (readNumber false (c :: others ++ _ ++ rest)).map _ = _
      rw [read]
      rfl

end NumberText

/-! ## Integers -/

/-- A number that fits is taken digit by digit, and no digit is dropped. -/
theorem appendDigits_of_lt {cs : List Char} {value : Nat}
    (fits : Nat.ofDigitChars 10 cs value < 18446744073709551616) :
    appendDigits value cs = (Nat.ofDigitChars 10 cs value, []) := by
  induction cs generalizing value with
  | nil => rfl
  | cons c cs ih =>
      rw [Nat.ofDigitChars_cons, Nat.mul_comm 10 value] at fits ⊢
      have grows : ∀ (cs : List Char) (n : Nat), n ≤ Nat.ofDigitChars 10 cs n := by
        intro cs
        induction cs with
        | nil => exact fun n => Nat.le_of_eq Nat.ofDigitChars_nil.symm
        | cons c cs ih =>
            intro n
            rw [Nat.ofDigitChars_cons]
            exact Nat.le_trans (by omega) (ih _)
      rw [appendDigits, if_pos (Nat.lt_of_le_of_lt (grows cs _) fits)]
      exact ih fits

/-- Digits of which none is dropped are taken for their number. -/
theorem appendDigits_eq {cs : List Char} {value : Nat} (all : (appendDigits value cs).2 = []) :
    (appendDigits value cs).1 = Nat.ofDigitChars 10 cs value := by
  induction cs generalizing value with
  | nil => rfl
  | cons c cs ih =>
      rw [appendDigits] at all ⊢
      rw [Nat.ofDigitChars_cons, Nat.mul_comm 10 value]
      split at all
      · rename_i fits
        rw [if_pos fits]
        exact ih all
      · cases all

theorem Numeral.ofInt?_of_inRange {n : Int}
    (inRange : -9223372036854775808 ≤ n ∧ n < 18446744073709551616) :
    Numeral.ofInt? n = some (.whole n inRange) :=
  dif_pos inRange

/-- A double is no whole number, even where it is equal to one. -/
theorem Numeral.ofFinite?_ne_whole {x : Binary64} {n : Int}
    {inRange : -9223372036854775808 ≤ n ∧ n < 18446744073709551616} :
    Numeral.ofFinite? x ≠ some (.whole n inRange) := by
  intro made
  rw [Numeral.ofFinite?] at made
  split at made
  · cases made
  · cases made

theorem Numeral.ofInt?_eq_some {m n : Int}
    {inRange : -9223372036854775808 ≤ n ∧ n < 18446744073709551616}
    (made : Numeral.ofInt? m = some (.whole n inRange)) : m = n := by
  rw [Numeral.ofInt?] at made
  split at made
  · exact (Numeral.whole.inj (Option.some.inj made))
  · cases made

namespace NumberText

variable (t : NumberText)

/-- An integer that fits into 64 bits has a whole number for its value. -/
theorem value?_literal {n : Int} (written : t.integer? = some n)
    (inRange : -9223372036854775808 ≤ n ∧ n < 18446744073709551616) :
    t.literal.value? = some (.whole n inRange) := by
  obtain ⟨negative, front, behind, exponent, isFront⟩ := t
  rw [integer?.eq_def] at written
  dsimp only at written
  split at written
  · rw [literal, Literal.value?]
    dsimp only
    cases negative with
    | false =>
        rw [Bool.not_false, if_pos rfl] at written
        obtain rfl := Option.some.inj written
        have fits : Nat.ofDigitChars 10 front 0 < 18446744073709551616 := by omega
        rw [appendDigits_of_lt fits, Bool.not_false, if_pos rfl]
        exact Numeral.ofInt?_of_inRange inRange
    | true =>
        rw [Bool.not_true, if_neg Bool.false_ne_true] at written
        split at written
        · cases written
        · rename_i positive
          obtain rfl := Option.some.inj written
          have small : (Nat.ofDigitChars 10 front 0 = 0
              || decide (9223372036854775808 < Nat.ofDigitChars 10 front 0)) = false := by
            simp [positive]
            omega
          have fits : Nat.ofDigitChars 10 front 0 < 18446744073709551616 := by omega
          rw [appendDigits_of_lt fits, Bool.not_true, if_neg Bool.false_ne_true, small,
            if_neg Bool.false_ne_true]
          exact Numeral.ofInt?_of_inRange inRange
  · cases written

/-- A number with a whole number for its value is an integer. -/
theorem integer?_of_value? {n : Int}
    {inRange : -9223372036854775808 ≤ n ∧ n < 18446744073709551616}
    (value : t.literal.value? = some (.whole n inRange)) : t.integer? = some n := by
  obtain ⟨negative, front, behind, exponent, isFront⟩ := t
  rw [literal, Literal.value?] at value
  dsimp only at value
  split at value
  · rename_i noBehind noExponent all
    obtain rfl := Option.map_eq_none_iff.mp noBehind
    obtain rfl := Option.map_eq_none_iff.mp noExponent
    rw [appendDigits_eq all] at value
    cases negative with
    | false =>
        rw [Bool.not_false, if_pos rfl] at value
        exact congrArg some (Numeral.ofInt?_eq_some value)
    | true =>
        rw [Bool.not_true, if_neg Bool.false_ne_true] at value
        split at value
        · exact absurd value Numeral.ofFinite?_ne_whole
        · rename_i small
          have positive : Nat.ofDigitChars 10 front 0 ≠ 0 := by
            intro zero
            rw [zero] at small
            exact small rfl
          change (if Nat.ofDigitChars 10 front 0 = 0 then none
            else some (-(Nat.ofDigitChars 10 front 0 : Int))) = some n
          rw [if_neg positive]
          exact congrArg some (Numeral.ofInt?_eq_some value)
  · obtain ⟨x, -, made⟩ := Option.bind_eq_some_iff.mp value
    exact absurd made Numeral.ofFinite?_ne_whole

end NumberText

/-! ## Numbers as they are written -/

theorem isFront_digit {c : Char} (digit : c.isDigit = true) : IsFront [c] where
  nonempty := List.cons_ne_nil _ _
  solid d member := by rwa [List.mem_singleton.mp member]
  plain _ := rfl

theorem isFront_ofNat (n : Nat) : IsFront (Text.ofNat n) where
  nonempty := Nat.toDigits_ne_nil
  solid _ := Text.isDigit_of_mem_ofNat
  plain zero := by
    by_cases positive : n = 0
    · rw [positive]
      rfl
    · exact absurd zero (Text.head?_ofNat_ne_zero positive)

/-- Digits that begin as those of a number do, if it is not zero. -/
theorem isFront_of_head? {n : Nat} (positive : n ≠ 0) (solid : ∀ c ∈ front, c.isDigit = true)
    (begins : front.head? = (Text.ofNat n).head?) : IsFront front where
  nonempty := by
    rintro rfl
    have none : Text.ofNat n = [] := List.head?_eq_none_iff.mp begins.symm
    exact Nat.toDigits_ne_nil none
  solid := solid
  plain zero := absurd (begins.symm.trans zero) (Text.head?_ofNat_ne_zero positive)

def wholeText (n : Int) : NumberText :=
  ⟨decide (n < 0), Text.ofNat n.natAbs, none, none, isFront_ofNat n.natAbs⟩

theorem integer?_wholeText (n : Int) : (wholeText n).integer? = some n := by
  have digits : Nat.ofDigitChars 10 (Text.ofNat n.natAbs) 0 = n.natAbs :=
    Nat.ofDigitChars_ten_toDigits
  rw [NumberText.integer?, wholeText]
  dsimp only
  rw [digits]
  by_cases negative : n < 0
  · rw [decide_eq_true negative, Bool.not_true, if_neg Bool.false_ne_true, if_neg (by omega)]
    exact congrArg some (by omega)
  · rw [decide_eq_false negative, Bool.not_false, if_pos rfl]
    exact congrArg some (by omega)

theorem chars_wholeText (n : Int)
    (inRange : -9223372036854775808 ≤ n ∧ n < 18446744073709551616) :
    (wholeText n).chars = (Numeral.whole n inRange).write := by
  have unsigned : (wholeText n).unsigned = Text.ofNat n.natAbs := List.append_nil _
  rw [NumberText.chars, unsigned, Numeral.write]
  cases n with
  | ofNat k =>
      rw [Text.ofInt, String.toList_ofList]
      rfl
  | negSucc k =>
      rw [Text.ofInt, String.toList_ofList]
      exact if_pos (decide_eq_true (Int.negSucc_lt_zero k))

/-! ## Doubles -/

theorem positional_of_behind {d : Number.Decimal} {whole front behind : List Char}
    (parts : Number.positionalParts d = (front, behind)) (some : behind ≠ []) :
    Number.positional whole d = front ++ '.' :: behind := by
  obtain ⟨c, rest, rfl⟩ := List.exists_cons_of_ne_nil some
  rw [Number.positional, parts]

/-- A number with a point has digits on both sides of it. -/
theorem exists_positional (d : Number.Decimal) :
    ∃ front behind, Number.positional ['.', '0'] d = front ++ '.' :: behind ∧ IsFront front
      ∧ behind ≠ [] ∧ ∀ c ∈ behind, c.isDigit = true := by
  have digits : ∀ c ∈ d.characters, c.isDigit = true := fun _ => Text.isDigit_of_mem_ofNat
  have zeros : ∀ count : Nat, ∀ c ∈ List.replicate count '0', c.isDigit = true := by
    intro count c member
    rw [(List.mem_replicate.mp member).2]
    rfl
  have some : d.characters ≠ [] := Nat.toDigits_ne_nil
  cases sign : d.exponent with
  | ofNat e =>
      have parts : Number.positionalParts d
          = (d.characters ++ List.replicate (if d.digits = 0 then 0 else e) '0', []) := by
        rw [Number.positionalParts, sign]
      refine ⟨d.characters ++ List.replicate (if d.digits = 0 then 0 else e) '0', ['0'], ?_, ?_,
        List.cons_ne_nil _ _, zeros 1⟩
      · rw [Number.positional, parts]
      · by_cases zero : d.digits = 0
        · rw [if_pos zero, List.replicate_zero, List.append_nil]
          exact isFront_ofNat d.digits
        · refine isFront_of_head? zero ?_ (List.head?_append_of_ne_nil _ some)
          exact fun c member => (List.mem_append.mp member).elim (digits c) (zeros _ c)
  | negSucc e =>
      by_cases inside : e + 1 < d.characters.length
      · have parts : Number.positionalParts d
            = (d.characters.take (d.characters.length - (e + 1)),
                d.characters.drop (d.characters.length - (e + 1))) := by
          rw [Number.positionalParts, sign]
          exact if_pos inside
        have behind : d.characters.drop (d.characters.length - (e + 1)) ≠ [] := by
          rw [Ne, List.drop_eq_nil_iff]
          omega
        refine ⟨_, _, positional_of_behind parts behind, ?_, behind, ?_⟩
        · have long : d.digits ≠ 0 := by
            intro zero
            rw [Number.Decimal.characters, zero] at inside
            simp [Text.ofNat] at inside
          refine isFront_of_head? long (fun c member => digits c (List.mem_of_mem_take member)) ?_
          rw [List.head?_take, if_neg (by omega)]
          rfl
        · exact fun c member => digits c (List.mem_of_mem_drop member)
      · have parts : Number.positionalParts d
            = (['0'], List.replicate (e + 1 - d.characters.length) '0' ++ d.characters) := by
          rw [Number.positionalParts, sign]
          exact if_neg inside
        have behind : List.replicate (e + 1 - d.characters.length) '0' ++ d.characters ≠ [] :=
          List.append_ne_nil_of_right_ne_nil _ some
        refine ⟨_, _, positional_of_behind parts behind, isFront_digit rfl, behind, ?_⟩
        exact fun c member => (List.mem_append.mp member).elim (zeros _ c) (digits c)

/-- A number with an exponent has one digit in front of the point, if there is a point. -/
theorem exists_significandText (d : Number.Decimal) :
    ∃ c behind, c.isDigit = true
      ∧ ((behind = [] ∧ Number.significandText [] d = [c])
        ∨ (behind ≠ [] ∧ Number.significandText [] d = c :: '.' :: behind))
      ∧ ∀ c ∈ behind, c.isDigit = true := by
  have digits : ∀ c ∈ d.characters, c.isDigit = true := fun _ => Text.isDigit_of_mem_ofNat
  obtain ⟨c, rest, written, digit⟩ := Text.exists_ofNat_eq_cons d.digits
  have characters : d.characters = c :: rest := written
  rw [Number.significandText, characters]
  rw [characters] at digits
  refine ⟨c, rest, digit, ?_, fun c member => digits c (List.mem_cons_of_mem _ member)⟩
  cases rest with
  | nil => exact .inl ⟨rfl, rfl⟩
  | cons next rest => exact .inr ⟨List.cons_ne_nil _ _, rfl⟩

/-- An exponent is written with its sign. -/
theorem exists_exponentText (e : Int) :
    ∃ x : ExponentText, x.chars = 'e' :: Number.exponentText 1 e := by
  have nonempty : (Text.padded 1 e.natAbs).toList ≠ [] := by
    rw [Text.toList_padded]
    exact List.append_ne_nil_of_right_ne_nil _ Nat.toDigits_ne_nil
  let digits : Digits := ⟨_, nonempty, fun _ => Text.isDigit_of_mem_padded⟩
  rw [Number.exponentText]
  by_cases negative : e < 0
  · rw [if_pos negative]
    exact ⟨⟨'e', ['-'], digits, .inl rfl, .inr (.inr rfl)⟩, rfl⟩
  · rw [if_neg negative]
    exact ⟨⟨'e', ['+'], digits, .inl rfl, .inr (.inl rfl)⟩, rfl⟩

/-- A decimal is written as a number that has a point or an exponent. -/
theorem exists_numberText_of_write (d : Number.Decimal) (negative : Bool) :
    ∃ t : NumberText, t.negative = negative ∧ t.integer? = none
      ∧ t.unsigned = Number.Layout.json.write d := by
  rw [Number.Layout.write]
  split
  · obtain ⟨front, behind, written, good, some, solid⟩ := exists_positional d
    refine ⟨⟨negative, front, .some ⟨behind, some, solid⟩, none, good⟩, rfl, rfl, ?_⟩
    change _ = Number.positional ['.', '0'] d
    rw [written]
    exact congrArg _ (List.append_nil _)
  · obtain ⟨c, behind, digit, shapes, solid⟩ := exists_significandText d
    obtain ⟨e, exponent⟩ := exists_exponentText d.scientificExponent
    change ∃ t : NumberText, _ ∧ _ ∧ t.unsigned = Number.significandText [] d
      ++ 'e' :: Number.exponentText 1 d.scientificExponent
    rw [← exponent]
    rcases shapes with ⟨-, written⟩ | ⟨some, written⟩
    · rw [written]
      exact ⟨⟨negative, [c], none, e, isFront_digit digit⟩, rfl, rfl, rfl⟩
    · rw [written]
      exact ⟨⟨negative, [c], .some ⟨behind, some, solid⟩, e, isFront_digit digit⟩, rfl, rfl, rfl⟩

/-- A double is written as a number, and as no integer. -/
theorem exists_numberText_of_jsonText (x : Binary64) :
    ∃ t : NumberText, t.integer? = none ∧ t.chars = (Number.jsonText x).toList := by
  obtain ⟨t, sign, noInteger, written⟩ :=
    exists_numberText_of_write (Number.shortest x) x.isNegative
  refine ⟨t, noInteger, ?_⟩
  rw [NumberText.chars, sign, written, Number.jsonText, String.toList_ofList]
  rfl

end Json
end SqlGate
