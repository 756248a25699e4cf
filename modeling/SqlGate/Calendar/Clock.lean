import SqlGate.Calendar.Date

namespace SqlGate
namespace Calendar

/-!
# Times of a day and moments

A time of a day is read off a clock: hours, minutes, seconds and nanoseconds.
A minute may end in a leap second.  A moment is a time of a day of the
calendar; whether it is meant in a place or all over the world is not part
of it.
-/

/-- A time of a day. -/
structure TimeOfDay where
  /-- The hour, counted from zero. -/
  hour : Nat
  /-- The minute of the hour. -/
  minute : Nat
  /-- The second of the minute; sixty is a leap second. -/
  second : Nat
  /-- The nanosecond of the second. -/
  nano : Nat
deriving DecidableEq, Repr

namespace TimeOfDay

/-- The time of an hour, minute, second and nanosecond, if there is one. -/
def make? (hour minute second nano : Nat) : Option TimeOfDay :=
  if hour < 24 && minute < 60 && second ≤ 60 && nano < 1000000000 then
    some ⟨hour, minute, second, nano⟩
  else none

def microsPerDay : Int := 86400000000

/-- The time so many microseconds after midnight, of whatever day. -/
def ofMicros (micros : Int) : TimeOfDay :=
  let n := (micros % microsPerDay).toNat
  ⟨n / 3600000000, n / 60000000 % 60, n / 1000000 % 60, n % 1000000 * 1000⟩

/-- The fraction of a second, in as many groups of three digits as it needs. -/
def fractionText (nano : Nat) : String :=
  if nano = 0 then ""
  else if nano % 1000000 = 0 then "." ++ Text.padded 3 (nano / 1000000)
  else if nano % 1000 = 0 then "." ++ Text.padded 6 (nano / 1000)
  else "." ++ Text.padded 9 nano

def display (time : TimeOfDay) : String :=
  Text.padded 2 time.hour ++ ":" ++ Text.padded 2 time.minute ++ ":" ++ Text.padded 2 time.second
    ++ fractionText time.nano

end TimeOfDay

/-- A time of a day of the calendar. -/
structure Moment where
  /-- The day. -/
  date : Date
  time : TimeOfDay
deriving DecidableEq, Repr

namespace Moment

/-- The moment so many microseconds after the beginning of 2000, if its year is known. -/
def ofMicros? (micros : Int) : Option Moment :=
  let date := Date.ofDay (micros / TimeOfDay.microsPerDay)
  if Date.hasKnownYear date.year then some ⟨date, TimeOfDay.ofMicros micros⟩ else none

/-- The moment so many minutes earlier, if its year is known; seconds stay what they are. -/
def earlier? (minutes : Int) (moment : Moment) : Option Moment :=
  let total := moment.date.toDay * 1440 + moment.time.hour * 60 + moment.time.minute - minutes
  let date := Date.ofDay (total / 1440)
  let rest := (total % 1440).toNat
  if Date.hasKnownYear date.year then
    some ⟨date, { moment.time with hour := rest / 60, minute := rest % 60 }⟩
  else none

def display (moment : Moment) : String :=
  moment.date.display ++ " " ++ moment.time.display

/-- A moment meant all over the world, as it is shown. -/
def displayUniversal (moment : Moment) : String :=
  moment.date.display ++ "T" ++ moment.time.display ++ "+00:00"

end Moment
end Calendar
end SqlGate
