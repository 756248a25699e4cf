import Mathlib.Tactic.IntervalCases
import SqlGate.Calendar.Date

namespace SqlGate
namespace Calendar

/-!
# The number of a day read back

Counted from the first of March, a year of an era and a day of a year are found
in the number of a day by division alone.  The numbering loses nothing, then:
every day of the calendar is the day of its number.
-/

namespace Date

/-- What is asked of a year, month and day for a day to be made of them. -/
structure IsDay (date : Date) : Prop where
  known : hasKnownYear date.year = true
  month_pos : 1 ≤ date.month
  month_le : date.month ≤ 12
  day_pos : 1 ≤ date.day
  day_le : date.day ≤ daysInMonth date.year date.month

theorem IsDay.make?_eq {date : Date} (isDay : date.IsDay) :
    make? date.year date.month date.day = some date := by
  rw [make?, isDay.known, decide_eq_true isDay.month_pos, decide_eq_true isDay.month_le,
    decide_eq_true isDay.day_pos, decide_eq_true isDay.day_le]
  rfl

/-! ## Eras, years and months -/

/-- The year of an era is found in the number of its day, if only years that a leap day ends have
a day more. -/
theorem year_of_dayOfEra {year dayOfYear day : Int} (low : 0 ≤ year) (high : year < 400)
    (first : 0 ≤ dayOfYear) (last : dayOfYear ≤ 365)
    (leap : dayOfYear = 365 -> year % 4 = 3 ∧ (year % 100 ≠ 99 ∨ year = 399))
    (number : day = 365 * year + year / 4 - year / 100 + dayOfYear) :
    (day - day / 1460 + day / 36524 - day / 146096) / 365 = year := by
  have centuries : day / 36524 = year / 100 ∨ (day = 146096 ∧ year = 399) := by omega
  rcases centuries with centuries | ⟨lastDay, lastYear⟩
  · have notLast : day / 146096 = 0 := by omega
    have fours : day / 1460 = year / 4 - 1 ∨ day / 1460 = year / 4 ∨ day / 1460 = year / 4 + 1 := by
      omega
    rw [centuries, notLast]
    omega
  · rw [lastDay, lastYear]
    decide

/-- The month is found in the day of the year. -/
theorem month_of_dayOfYear {month day : Int} (low : 0 ≤ month) (high : month ≤ 11) (first : 1 ≤ day)
    (last : daysBefore month + day ≤ daysBefore (month + 1)) :
    (5 * (daysBefore month + (day - 1)) + 2) / 153 = month := by
  unfold daysBefore at last ⊢
  interval_cases month <;> omega

/-- The day of a number is found by its year, month and day counted from the first of March. -/
theorem ofDay_of_fromMarch {year month day : Int} (low : 0 ≤ month) (high : month ≤ 11)
    (first : 1 ≤ day) (last : daysBefore month + day ≤ daysBefore (month + 1))
    (inYear : daysBefore month + (day - 1) ≤ 365)
    (leap : daysBefore month + (day - 1) = 365 ->
      year % 4 = 3 ∧ (year % 100 ≠ 99 ∨ year % 400 = 399)) :
    ofDay (365 * year + year / 4 - year / 100 + year / 400 + daysBefore month + (day - 1) - epoch)
      = ⟨year + if 10 ≤ month then 1 else 0, (if 10 ≤ month then month - 9 else month + 3).toNat,
        day.toNat⟩ := by
  have monthFound := month_of_dayOfYear low high first last
  have positive : 0 ≤ daysBefore month := by
    unfold daysBefore
    omega
  generalize beforeIs : daysBefore month = before at *
  generalize dayOfEraIs : 365 * (year % 400) + year % 400 / 4 - year % 400 / 100
    + (before + (day - 1)) = dayOfEra
  have yearFound : (dayOfEra - dayOfEra / 1460 + dayOfEra / 36524 - dayOfEra / 146096) / 365
      = year % 400 :=
    year_of_dayOfEra (by omega) (by omega) (by omega) inYear (by omega) dayOfEraIs.symm
  have inEra : 0 ≤ dayOfEra ∧ dayOfEra < 146097 := by omega
  -- all eras have the same number of days, so that what is left of the number is the day of its era
  generalize number : 365 * year + year / 4 - year / 100 + year / 400 + before + (day - 1) = days
  have fours : year / 4 = 100 * (year / 400) + year % 400 / 4 := by omega
  have centuries : year / 100 = 4 * (year / 400) + year % 400 / 100 := by omega
  have split : days = 146097 * (year / 400) + dayOfEra := by omega
  have era : days / 146097 = year / 400 := by omega
  have left : days % 146097 = dayOfEra := by omega
  have dayOfYear : dayOfEra - (365 * (year % 400) + year % 400 / 4 - year % 400 / 100)
      = before + (day - 1) := by
    omega
  simp only [ofDay, Int.sub_add_cancel, daysPerEra, era, left, yearFound, dayOfYear, monthFound,
    beforeIs, mk.injEq, true_and]
  omega

/-! ## Months from March on -/

theorem isLeap_iff (year : Int) :
    isLeap year = true ↔ year % 4 = 0 ∧ (year % 100 ≠ 0 ∨ year % 400 = 0) := by
  simp [isLeap]

/-- The months have room for their days, one behind another, and only a leap day is the last one
that a year may have. -/
theorem daysBefore_add_daysInMonth (year : Int) {month : Nat} (low : 1 ≤ month)
    (high : month ≤ 12) :
    daysBefore ((month + 9) % 12) + daysInMonth year month ≤ daysBefore ((month + 9) % 12 + 1)
      ∧ daysBefore ((month + 9) % 12) + daysInMonth year month ≤ 366
      ∧ (daysBefore ((month + 9) % 12) + daysInMonth year month = 366 ->
        month = 2 ∧ isLeap year = true) := by
  cases leap : isLeap year <;> interval_cases month <;> simp [daysInMonth, daysBefore, leap]

/-- Every day is the day of its number. -/
theorem ofDay_toDay {date : Date} (isDay : date.IsDay) : ofDay date.toDay = date := by
  rcases date with ⟨year, month, day⟩
  have month_pos : 1 ≤ month := isDay.month_pos
  have month_le : month ≤ 12 := isDay.month_le
  have day_pos : 1 ≤ day := isDay.day_pos
  have day_le : day ≤ daysInMonth year month := isDay.day_le
  rcases daysBefore_add_daysInMonth year month_pos month_le with ⟨room, inYear, leap⟩
  rw [isLeap_iff] at leap
  rw [toDay]
  dsimp only
  rw [ofDay_of_fromMarch]
  case low => omega
  case high => omega
  case first => omega
  case last => omega
  case inYear => omega
  case leap =>
    intro lastDay
    split
    · omega
    · omega
  rw [mk.injEq]
  refine ⟨?_, ?_, Int.toNat_natCast day⟩
  · split <;> split <;> omega
  · split <;> omega

/-- The days of all years that are kept have numbers of 32 bits, and so have their microseconds
of 64 bits. -/
theorem toDay_bounds {date : Date} (isDay : date.IsDay) :
    -97000000 ≤ date.toDay ∧ date.toDay ≤ 97000000 := by
  have known := isDay.known
  rw [hasKnownYear, Bool.and_eq_true, decide_eq_true_eq, decide_eq_true_eq] at known
  rcases daysBefore_add_daysInMonth date.year isDay.month_pos isDay.month_le with ⟨-, inYear, -⟩
  have day_pos := isDay.day_pos
  have day_le := isDay.day_le
  have positive : 0 ≤ daysBefore (((date.month : Int) + 9) % 12) := by
    unfold daysBefore
    omega
  rw [toDay, epoch]
  generalize daysBefore (((date.month : Int) + 9) % 12) = before at *
  split
  · omega
  · omega

end Date
end Calendar
end SqlGate
