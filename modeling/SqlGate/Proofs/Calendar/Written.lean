import Mathlib.Data.List.DropRight
import Mathlib.Tactic.Ring
import SqlGate.Calendar.Reading
import SqlGate.Proofs.Calendar.Days
import SqlGate.Proofs.Text.Digits

namespace SqlGate
namespace Calendar

/-!
# Days and times as a server writes them

A server writes years without a sign, in four digits or more, and tells the
years before the first by a mark behind everything else.  It drops the zeros at
the end of a fraction of a second, and counts the end of a day as a time of it.
What of this the readers of the library understand is the subject here: the
years that have four digits and no mark, and all times but the end of a day.
What they do not understand is not what is shown, either.
-/

/-! ## Written forms -/

/-- The year that is written: those before the first are counted back from it. -/
def Date.writtenYear (date : Date) : Nat :=
  if 0 < date.year then date.year.toNat else (1 - date.year).toNat

def Date.written (date : Date) : List Char :=
  (Text.padded 4 date.writtenYear).toList ++ '-' :: ((Text.padded 2 date.month).toList
    ++ '-' :: (Text.padded 2 date.day).toList)

/-- The mark of the years before the first. -/
def Date.mark (date : Date) : List Char :=
  if 0 < date.year then [] else [' ', 'B', 'C']

/-- A fraction of a second without the zeros at its end. -/
def writtenFraction (micros : Nat) : List Char :=
  if micros = 0 then [] else '.' :: (Text.padded 6 micros).toList.rdropWhile (· == '0')

/-- So many microseconds after midnight, as a time of the day. -/
def writtenTime (micros : Nat) : List Char :=
  (Text.padded 2 (micros / 3600000000)).toList
    ++ ':' :: ((Text.padded 2 (micros / 60000000 % 60)).toList
      ++ ':' :: ((Text.padded 2 (micros / 1000000 % 60)).toList
        ++ writtenFraction (micros % 1000000)))

/-- Whether the day is one that is read back. -/
def Date.isPlain (date : Date) : Bool :=
  1 ≤ date.year && date.year ≤ 9999

/-! ## Numbers at the front of a text -/

namespace Reading

/-- What does not go on with a digit. -/
def Ends (rest : List Char) : Prop :=
  ∀ c ∈ rest.head?, c.isDigit = false

theorem ends_nil : Ends [] := by
  intro c member
  cases member

theorem ends_cons {c : Char} (noDigit : c.isDigit = false) (rest : List Char) :
    Ends (c :: rest) := by
  intro d member
  cases member
  exact noDigit

theorem takeWhile_of_ends {rest : List Char} (ends : Ends rest) :
    rest.takeWhile Char.isDigit = [] := by
  cases rest with
  | nil => rfl
  | cons c rest => exact List.takeWhile_cons_of_neg (Bool.eq_false_iff.mp (ends c rfl))

theorem takeWhile_append_of_ends {digits rest : List Char}
    (solid : ∀ c ∈ digits, c.isDigit = true) (ends : Ends rest) :
    (digits ++ rest).takeWhile Char.isDigit = digits := by
  rw [List.takeWhile_append_of_pos solid, takeWhile_of_ends ends, List.append_nil]

/-- Digits are taken as far as they may be, if nothing more could be taken. -/
theorem takeDigits_append {most : Nat} {digits rest : List Char} (given : digits ≠ [])
    (solid : ∀ c ∈ digits, c.isDigit = true) (short : digits.length ≤ most)
    (ends : Ends (rest.take (most - digits.length))) :
    takeDigits most (digits ++ rest) = some (Number.digitsValue digits, rest) := by
  have taken : ((digits ++ rest).take most).takeWhile Char.isDigit = digits := by
    rw [List.take_append, List.take_of_length_le short, takeWhile_append_of_ends solid ends]
  have isEmpty : digits.isEmpty = false := List.isEmpty_eq_false_iff.mpr given
  rw [takeDigits, taken, isEmpty, List.drop_left]
  rfl

theorem trimStart_digits {digits rest : List Char} (given : digits ≠ [])
    (solid : ∀ c ∈ digits, c.isDigit = true) :
    Text.trimStart (digits ++ rest) = digits ++ rest := by
  cases digits with
  | nil => exact absurd rfl given
  | cons c digits =>
      have noBlank : ¬Text.isBlank c = true :=
        Bool.eq_false_iff.mp (Text.isBlank_of_isDigit (solid c List.mem_cons_self))
      rw [List.cons_append, Text.trimStart, List.dropWhile_cons_of_neg noBlank]

theorem padded_ne_nil (width n : Nat) : (Text.padded width n).toList ≠ [] := by
  rw [Text.toList_padded]
  exact List.append_ne_nil_of_right_ne_nil _ Nat.toDigits_ne_nil

/-- A number with as many digits as may be taken is taken whatever follows it. -/
theorem takeDigits_padded {width n : Nat} (given : 0 < width) (fits : n < 10 ^ width)
    (rest : List Char) : takeDigits width ((Text.padded width n).toList ++ rest) = some (n, rest) := by
  have solid : ∀ c ∈ (Text.padded width n).toList, c.isDigit = true :=
    fun _ => Text.isDigit_of_mem_padded
  have length : (Text.padded width n).toList.length = width := Text.length_padded given fits
  have ends : Ends (rest.take (width - (Text.padded width n).toList.length)) := by
    rw [length, Nat.sub_self]
    exact ends_nil
  rw [takeDigits_append (padded_ne_nil width n) solid length.le ends, Number.digitsValue_padded]

theorem takeNumber_padded {n : Nat} (small : n < 100) (rest : List Char) :
    takeNumber 2 ((Text.padded 2 n).toList ++ rest) = some (n, rest) := by
  rw [takeNumber, trimStart_digits (padded_ne_nil 2 n) (fun _ => Text.isDigit_of_mem_padded),
    takeDigits_padded (by decide) small]

theorem expect_cons (c : Char) (rest : List Char) : expect c (c :: rest) = some rest := by
  rw [expect, if_pos rfl]

/-- A year without a sign has four digits at most. -/
theorem takeYear_digits {digits rest : List Char} (given : digits ≠ [])
    (solid : ∀ c ∈ digits, c.isDigit = true) :
    takeYear (digits ++ rest)
      = (takeDigits 4 (digits ++ rest)).map fun found => (Int.ofNat found.1, found.2) := by
  have starts : ∀ c more, digits ++ rest = c :: more -> c.isDigit = true := by
    intro c more begins
    cases digits with
    | nil => exact absurd rfl given
    | cons d digits =>
        cases begins
        exact solid c List.mem_cons_self
  rw [takeYear, trimStart_digits given solid]
  split
  · exact absurd (starts _ _ ‹_›) (by decide)
  · exact absurd (starts _ _ ‹_›) (by decide)
  · rfl

/-- A year of four digits is taken whatever follows it. -/
theorem takeYear_padded {year : Nat} (small : year < 10000) (rest : List Char) :
    takeYear ((Text.padded 4 year).toList ++ rest) = some (Int.ofNat year, rest) := by
  rw [takeYear_digits (padded_ne_nil 4 year) (fun _ => Text.isDigit_of_mem_padded),
    takeDigits_padded (by decide) small]
  rfl

/-- Of a year of more digits, four are taken, and a digit is left. -/
theorem exists_takeYear_padded {year : Nat} (large : 10000 ≤ year) (rest : List Char) :
    ∃ found c more, takeYear ((Text.padded 4 year).toList ++ rest) = some (found, c :: more)
      ∧ c.isDigit = true := by
  have given := padded_ne_nil 4 year
  have solid : ∀ c ∈ (Text.padded 4 year).toList, c.isDigit = true :=
    fun _ => Text.isDigit_of_mem_padded
  have long : 4 < (Text.padded 4 year).toList.length := by
    have digits : ¬(Text.ofNat year).length ≤ 4 := by
      rw [Text.ofNat, Nat.length_toDigits_le_iff (by decide) (by decide)]
      omega
    rw [Text.toList_padded, List.length_append]
    omega
  rw [takeYear_digits given solid]
  -- the fifth digit is what is left in front
  generalize (Text.padded 4 year).toList = digits at given solid long
  cases behind : digits.drop 4 with
  | nil =>
      have length := congrArg List.length behind
      rw [List.length_drop, List.length_nil] at length
      omega
  | cons c more =>
      have length : (digits.take 4).length = 4 := by
        rw [List.length_take]
        omega
      have given : digits.take 4 ≠ [] := List.ne_nil_of_length_pos (by omega)
      have digit : c.isDigit = true := by
        apply solid
        apply List.mem_of_mem_drop
        rw [behind]
        exact List.mem_cons_self
      have split : digits ++ rest = digits.take 4 ++ (c :: (more ++ rest)) := by
        rw [← List.cons_append, ← behind, ← List.append_assoc, List.take_append_drop]
      have ends : Ends ((c :: (more ++ rest)).take (4 - (digits.take 4).length)) := by
        rw [length]
        exact ends_nil
      rw [split, takeDigits_append given (fun d member => solid d (List.mem_of_mem_take member))
        length.le ends]
      exact ⟨_, c, _, rfl, digit⟩

/-! ## Days -/

/-- A day is taken without its mark, if its year has four digits. -/
theorem takeDate_written {date : Date} (small : date.writtenYear < 10000) (month : date.month < 100)
    (day : date.day < 100) (rest : List Char) :
    takeDate (date.written ++ rest)
      = (Date.make? (Int.ofNat date.writtenYear) date.month date.day).map fun taken =>
        (taken, rest) := by
  rw [Date.written, takeDate]
  simp only [List.append_assoc, List.cons_append, takeYear_padded small, takeNumber_padded month,
    takeNumber_padded day, expect_cons, Option.bind_eq_bind, Option.bind_some]
  rw [Option.map_eq_bind]
  rfl

theorem takeDate_written_of_le {date : Date} (large : 10000 ≤ date.writtenYear) (rest : List Char) :
    takeDate (date.written ++ rest) = none := by
  rw [Date.written, takeDate, List.append_assoc]
  rcases exists_takeYear_padded large (('-' :: ((Text.padded 2 date.month).toList
    ++ '-' :: (Text.padded 2 date.day).toList)) ++ rest) with ⟨found, c, more, taken, digit⟩
  have noHyphen : c ≠ '-' := by
    rintro rfl
    cases digit
  rw [taken]
  simp only [Option.bind_eq_bind, Option.bind_some, expect, if_neg noHyphen, Option.bind_none]

/-! ## Times -/

theorem Ends.take {rest : List Char} (ends : Ends rest) (most : Nat) : Ends (rest.take most) := by
  cases most with
  | zero => exact ends_nil
  | succ most =>
      cases rest with
      | nil => exact ends_nil
      | cons c rest => exact ends_cons (ends c rfl) _

theorem dropWhile_of_ends {rest : List Char} (ends : Ends rest) :
    rest.dropWhile Char.isDigit = rest := by
  cases rest with
  | nil => rfl
  | cons c rest => exact List.dropWhile_cons_of_neg (Bool.eq_false_iff.mp (ends c rfl))

/-- Zeros at the end of digits count as powers of ten. -/
theorem digitsValue_rdropWhile (digits : List Char) :
    Number.digitsValue digits = Number.digitsValue (digits.rdropWhile (· == '0'))
      * 10 ^ (digits.length - (digits.rdropWhile (· == '0')).length) := by
  -- from the end, where the zeros are dropped
  induction digits using List.reverseRecOn with
  | nil => rfl
  | append_singleton digits c ih =>
      rw [List.rdropWhile_concat]
      split
      · rename_i zero
        have short : (digits.rdropWhile (· == '0')).length ≤ digits.length :=
          (List.rdropWhile_prefix _ digits).length_le
        have length : (digits ++ [c]).length - (digits.rdropWhile (· == '0')).length
            = digits.length - (digits.rdropWhile (· == '0')).length + 1 := by
          rw [List.length_append, List.length_singleton]
          omega
        have longer : Number.digitsValue (digits ++ [c]) = Number.digitsValue digits * 10 := by
          rw [eq_of_beq zero, Number.digitsValue, List.foldl_append]
          rfl
        rw [length, Nat.pow_succ, longer, ih]
        ring
      · rw [Nat.sub_self, Nat.pow_zero, Nat.mul_one]

theorem takeFraction_written {micros : Nat} (small : micros < 1000000) {rest : List Char}
    (ends : Ends rest) (noPoint : rest.head? ≠ some '.') :
    takeFraction (writtenFraction micros ++ rest) = some (micros * 1000, rest) := by
  rw [writtenFraction]
  split
  · rename_i zero
    rw [zero, List.nil_append, takeFraction.eq_def]
    split
    · exact absurd rfl noPoint
    · rfl
  · rename_i nonzero
    have length : (Text.padded 6 micros).toList.length = 6 := Text.length_padded (by decide) small
    have value := digitsValue_rdropWhile (Text.padded 6 micros).toList
    have start := List.rdropWhile_prefix (· == '0') (Text.padded 6 micros).toList
    rw [length, Number.digitsValue_padded] at value
    generalize (Text.padded 6 micros).toList.rdropWhile (· == '0') = digits at value start ⊢
    have short : digits.length ≤ 6 := by
      rw [← length]
      exact start.length_le
    have solid : ∀ c ∈ digits, c.isDigit = true :=
      fun c member => Text.isDigit_of_mem_padded (start.subset member)
    have given : digits.isEmpty = false := by
      rw [List.isEmpty_eq_false_iff]
      rintro rfl
      exact nonzero (value.trans (Nat.zero_mul _))
    have taken : ((digits ++ rest).take 9).takeWhile Char.isDigit = digits := by
      rw [List.take_append, List.take_of_length_le (by omega),
        takeWhile_append_of_ends solid (ends.take _)]
    have places : 9 - digits.length = 6 - digits.length + 3 := by omega
    rw [List.cons_append, takeFraction, taken, given, List.drop_left, dropWhile_of_ends ends]
    change some (_ * 10 ^ (9 - digits.length), rest) = _
    rw [places, Nat.pow_add, ← Nat.mul_assoc, ← value]

/-- A time is taken if it is one; the end of a day is none. -/
theorem takeTime_written {micros : Nat} (inDay : micros ≤ 86400000000) {rest : List Char}
    (ends : Ends rest) (noPoint : rest.head? ≠ some '.') :
    takeTime (writtenTime micros ++ rest)
      = (TimeOfDay.make? (micros / 3600000000) (micros / 60000000 % 60) (micros / 1000000 % 60)
        (micros % 1000000 * 1000)).map fun taken => (taken, rest) := by
  have hour : micros / 3600000000 < 100 := by omega
  have minute : micros / 60000000 % 60 < 100 := by omega
  have second : micros / 1000000 % 60 < 100 := by omega
  have fraction := takeFraction_written (Nat.mod_lt micros (by decide : 0 < 1000000)) ends noPoint
  rw [writtenTime, takeTime]
  simp only [List.append_assoc, List.cons_append, takeNumber_padded hour,
    takeNumber_padded minute, takeNumber_padded second, expect_cons, fraction,
    Option.bind_eq_bind, Option.bind_some]
  rw [Option.map_eq_bind]
  rfl

end Reading

/-! ## What is read back -/

namespace TimeOfDay

theorem make?_eq {micros : Nat} (inDay : micros < 86400000000) :
    make? (micros / 3600000000) (micros / 60000000 % 60) (micros / 1000000 % 60)
        (micros % 1000000 * 1000)
      = some ⟨micros / 3600000000, micros / 60000000 % 60, micros / 1000000 % 60,
        micros % 1000000 * 1000⟩ := by
  have hour : micros / 3600000000 < 24 := by omega
  have minute : micros / 60000000 % 60 < 60 := by omega
  have second : micros / 1000000 % 60 ≤ 60 := by omega
  have nano : micros % 1000000 * 1000 < 1000000000 := by omega
  rw [make?, decide_eq_true hour, decide_eq_true minute, decide_eq_true second,
    decide_eq_true nano]
  rfl

/-- Whole days before a time do not change it. -/
theorem ofMicros_add (day : Int) {micros : Nat} (inDay : micros < 86400000000) :
    ofMicros (day * microsPerDay + micros)
      = ⟨micros / 3600000000, micros / 60000000 % 60, micros / 1000000 % 60,
        micros % 1000000 * 1000⟩ := by
  have left : (day * microsPerDay + micros) % microsPerDay = micros := by
    unfold microsPerDay
    omega
  rw [ofMicros, left]
  rfl

theorem ofMicros_eq {micros : Nat} (inDay : micros < 86400000000) :
    ofMicros micros
      = ⟨micros / 3600000000, micros / 60000000 % 60, micros / 1000000 % 60,
        micros % 1000000 * 1000⟩ := by
  rw [← ofMicros_add 0 inDay, Int.zero_mul, Int.zero_add]

theorem read?_written {micros : Nat} (inDay : micros < 86400000000) :
    read? (String.ofList (writtenTime micros)) = some (ofMicros micros) := by
  have taken := Reading.takeTime_written inDay.le Reading.ends_nil (fun same => nomatch same)
  rw [List.append_nil] at taken
  rw [read?, String.toList_ofList, taken, make?_eq inDay, ofMicros_eq inDay]
  rfl

/-- The end of a day is not read. -/
theorem read?_endOfDay : read? (String.ofList (writtenTime 86400000000)) = none := by
  decide

end TimeOfDay

namespace Date

variable {date : Date}

theorem IsDay.month_lt (isDay : date.IsDay) : date.month < 100 := by
  have := isDay.month_le
  omega

theorem IsDay.day_lt (isDay : date.IsDay) : date.day < 100 := by
  have inMonth := isDay.day_le
  have noLonger : daysInMonth date.year date.month ≤ 31 := by
    unfold daysInMonth
    split
    · split <;> omega
    · split <;> omega
  omega

theorem isPlain_iff : date.isPlain = true ↔ 1 ≤ date.year ∧ date.year ≤ 9999 := by
  rw [isPlain, Bool.and_eq_true, decide_eq_true_eq, decide_eq_true_eq]

theorem writtenYear_of_isPlain (plain : date.isPlain = true) :
    date.writtenYear < 10000 ∧ Int.ofNat date.writtenYear = date.year := by
  rw [isPlain_iff] at plain
  rw [writtenYear, if_pos (by omega)]
  constructor
  · omega
  · exact Int.toNat_of_nonneg (by omega)

theorem mark_of_isPlain (plain : date.isPlain = true) : date.mark = [] := by
  rw [isPlain_iff] at plain
  rw [mark, if_pos (by omega)]

/-- A day that is not plain has a year of more digits, or the mark. -/
theorem long_or_marked (noPlain : date.isPlain = false) :
    10000 ≤ date.writtenYear ∨ date.mark = [' ', 'B', 'C'] := by
  rw [Bool.eq_false_iff, Ne, isPlain_iff] at noPlain
  by_cases positive : 0 < date.year
  · rw [writtenYear, if_pos positive]
    exact .inl (by omega)
  · exact .inr (if_neg positive)

theorem read?_written (isDay : date.IsDay) (plain : date.isPlain = true) :
    read? (String.ofList (date.written ++ date.mark)) = some date := by
  rcases writtenYear_of_isPlain plain with ⟨small, year⟩
  rw [read?, String.toList_ofList, Reading.takeDate_written small isDay.month_lt isDay.day_lt,
    mark_of_isPlain plain, year, isDay.make?_eq]
  rfl

/-- Other days are not read: a year of more digits goes on where a hyphen should stand, and the
mark is left over. -/
theorem read?_written_of_not_isPlain (isDay : date.IsDay) (noPlain : date.isPlain = false) :
    read? (String.ofList (date.written ++ date.mark)) = none := by
  rw [read?, String.toList_ofList]
  by_cases small : date.writtenYear < 10000
  · rcases long_or_marked noPlain with long | marked
    · exact absurd long (Nat.not_le.mpr small)
    · rw [Reading.takeDate_written small isDay.month_lt isDay.day_lt, marked]
      cases make? (Int.ofNat date.writtenYear) date.month date.day with
      | none => rfl
      | some taken => rfl
  · rw [Reading.takeDate_written_of_le (Nat.not_lt.mp small)]
    rfl

end Date

/-! ## What is shown -/

theorem noLetter_padded (width n : Nat) : 'C' ∉ (Text.padded width n).toList := fun member =>
  absurd (Text.isDigit_of_mem_padded member) (by decide)

theorem TimeOfDay.noLetter_display (time : TimeOfDay) : 'C' ∉ time.display.toList := by
  have noFraction : 'C' ∉ (fractionText time.nano).toList := by
    rw [fractionText]
    split
    · decide
    · split
      · simp [noLetter_padded]
      · split
        · simp [noLetter_padded]
        · simp [noLetter_padded]
  simp [display, noLetter_padded, noFraction]

namespace Date

variable {date : Date}

theorem mem_mark (marked : date.year ≤ 0) : 'C' ∈ date.mark := by
  rw [mark, if_neg (by omega)]
  decide

theorem display_toList (date : Date) :
    date.display.toList = (yearText date.year).toList ++ '-' :: ((Text.padded 2 date.month).toList
      ++ '-' :: (Text.padded 2 date.day).toList) := by
  simp [display]

theorem noLetter_display (date : Date) : 'C' ∉ date.display.toList := by
  have noYear : 'C' ∉ (yearText date.year).toList := by
    rw [yearText]
    split
    · exact noLetter_padded _ _
    · rw [String.toList_append, List.mem_append, not_or]
      refine ⟨?_, noLetter_padded _ _⟩
      split
      · decide
      · decide
  rw [display_toList]
  simp only [List.mem_append, List.mem_cons, noYear, noLetter_padded, or_false, false_or]
  decide

/-- A day that is not plain is not shown as it is written: the mark is not shown, and a sign is
shown in front of a longer year. -/
theorem written_append_ne_display (noPlain : date.isPlain = false) {front behind : List Char}
    (marked : date.year ≤ 0 -> 'C' ∈ front) (unmarked : 'C' ∉ behind) :
    date.written ++ front ≠ date.display.toList ++ behind := by
  intro same
  by_cases positive : 0 < date.year
  · have long : 9999 < date.year := by
      rw [Bool.eq_false_iff, Ne, isPlain_iff] at noPlain
      omega
    have signed : (yearText date.year).toList
        = '+' :: (Text.padded 4 date.year.natAbs).toList := by
      have fourDigits : ¬(decide (0 ≤ date.year) && decide (date.year ≤ 9999)) = true := by
        simp
        omega
      rw [yearText, if_neg fourDigits, if_neg (by omega), String.toList_append]
      rfl
    rcases List.exists_cons_of_ne_nil (Reading.padded_ne_nil 4 date.writtenYear)
      with ⟨c, rest, digits⟩
    have digit : c.isDigit = true := by
      apply Text.isDigit_of_mem_padded
      rw [digits]
      exact List.mem_cons_self
    rw [written, digits, display_toList, signed] at same
    rw [(List.cons.inj same).1] at digit
    cases digit
  · have shown : 'C' ∈ date.display.toList ++ behind := by
      rw [← same]
      exact List.mem_append_right _ (marked (by omega))
    rcases List.mem_append.mp shown with member | member
    · exact noLetter_display date member
    · exact unmarked member

theorem written_ne_display (noPlain : date.isPlain = false) :
    String.ofList (date.written ++ date.mark) ≠ date.display := by
  rw [Ne, ← String.toList_inj, String.toList_ofList, ← List.append_nil date.display.toList]
  exact written_append_ne_display noPlain mem_mark List.not_mem_nil

end Date

end Calendar
end SqlGate
