import SqlGate.Text.Digits

namespace SqlGate
namespace Calendar

/-!
# Days

Days of the Gregorian calendar, reckoned to all years before and after its
introduction, and numbered from the first of January 2000.  Years are counted
from the first of March for this, so that the day that leap years add is the
last of its year.
-/

/-- A day of the calendar. -/
structure Date where
  /-- Its year; the year before the first is zero. -/
  year : Int
  /-- Its month, counted from one. -/
  month : Nat
  /-- Its day, counted from one. -/
  day : Nat
deriving DecidableEq, Repr

/-- Whether a year has a day more. -/
def isLeap (year : Int) : Bool :=
  year % 4 == 0 && (year % 100 != 0 || year % 400 == 0)

def daysInMonth (year : Int) (month : Nat) : Nat :=
  if month = 2 then if isLeap year then 29 else 28
  else if [4, 6, 9, 11].contains month then 30
  else 31

namespace Date

/-- The years that are kept: those of 262143 years before and after the year zero. -/
def hasKnownYear (year : Int) : Bool :=
  -262143 ≤ year && year ≤ 262142

/-- The day of a year, month and day, if there is one. -/
def make? (year : Int) (month day : Nat) : Option Date :=
  if hasKnownYear year && 1 ≤ month && month ≤ 12 && 1 ≤ day
      && day ≤ daysInMonth year month then
    some ⟨year, month, day⟩
  else none

/-- The days of an era of four hundred years. -/
def daysPerEra : Int := 146097

/-- The number of the first of January 2000, counted from the first of March of the year zero. -/
def epoch : Int := 730425

/-- The days of the months from March up to a month, which is counted from zero. -/
def daysBefore (month : Int) : Int :=
  (153 * month + 2) / 5

def toDay (date : Date) : Int :=
  let year := if date.month ≤ 2 then date.year - 1 else date.year
  let month : Int := (date.month + 9) % 12
  365 * year + year / 4 - year / 100 + year / 400 + daysBefore month + (date.day - 1) - epoch

def ofDay (number : Int) : Date :=
  let days := number + epoch
  let era := days / daysPerEra
  let day := days % daysPerEra
  let year := (day - day / 1460 + day / 36524 - day / 146096) / 365
  let dayOfYear := day - (365 * year + year / 4 - year / 100)
  let month := (5 * dayOfYear + 2) / 153
  { year := 400 * era + year + if 10 ≤ month then 1 else 0
    month := (if 10 ≤ month then month - 9 else month + 3).toNat
    day := (dayOfYear - daysBefore month + 1).toNat }

/-- A year: four digits, and a sign where four digits do not suffice. -/
def yearText (year : Int) : String :=
  let digits := Text.padded 4 year.natAbs
  if 0 ≤ year && year ≤ 9999 then digits
  else (if year < 0 then "-" else "+") ++ digits

def display (date : Date) : String :=
  yearText date.year ++ "-" ++ Text.padded 2 date.month ++ "-" ++ Text.padded 2 date.day

end Date

end Calendar
end SqlGate
