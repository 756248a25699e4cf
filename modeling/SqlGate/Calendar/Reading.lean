import SqlGate.Calendar.Clock
import SqlGate.Number.Reading
import SqlGate.Text.Blank

namespace SqlGate
namespace Calendar

/-!
# Days and times from text

A day is year, month and day with `-` between them, a time is hour, minute and
second with `:` between them and a fraction behind.  Blanks are passed over in
front of each number, and a number ends where its digits do or where it has as
many as it may have.
-/

namespace Reading

/-- Take the digits in front, at most as many as are allowed. -/
def takeDigits (most : Nat) (cs : List Char) : Option (Nat × List Char) :=
  let digits := (cs.take most).takeWhile Char.isDigit
  if digits.isEmpty then none else some (Number.digitsValue digits, cs.drop digits.length)

def takeNumber (most : Nat) (cs : List Char) : Option (Nat × List Char) :=
  takeDigits most (Text.trimStart cs)

/-- Take a character. -/
def expect (c : Char) : List Char -> Option (List Char)
  | d :: rest => if d = c then some rest else none
  | [] => none

/-- Take a year behind blanks: four digits at most, or a sign and any number of them. -/
def takeYear (cs : List Char) : Option (Int × List Char) :=
  match Text.trimStart cs with
  | '-' :: rest => (takeDigits rest.length rest).map fun found => (-Int.ofNat found.1, found.2)
  | '+' :: rest => (takeDigits rest.length rest).map fun found => (Int.ofNat found.1, found.2)
  | rest => (takeDigits 4 rest).map fun found => (Int.ofNat found.1, found.2)

def takeDate (cs : List Char) : Option (Date × List Char) := do
  let (year, rest) <- takeYear cs
  let (month, rest) <- takeNumber 2 (<- expect '-' rest)
  let (day, rest) <- takeNumber 2 (<- expect '-' rest)
  return (<- Date.make? year month day, rest)

/-- Take a fraction of a second, if there is one; digits behind the ninth do not count. -/
def takeFraction : List Char -> Option (Nat × List Char)
  | '.' :: rest =>
      let digits := (rest.take 9).takeWhile Char.isDigit
      if digits.isEmpty then none
      else
        some (Number.digitsValue digits * Nat.pow 10 (9 - digits.length),
          (rest.drop digits.length).dropWhile Char.isDigit)
  | rest => some (0, rest)

def takeTime (cs : List Char) : Option (TimeOfDay × List Char) := do
  let (hour, rest) <- takeNumber 2 cs
  let (minute, rest) <- takeNumber 2 (<- expect ':' rest)
  let (second, rest) <- takeNumber 2 (<- expect ':' rest)
  let (nano, rest) <- takeFraction rest
  return (<- TimeOfDay.make? hour minute second nano, rest)

/-- Take a moment: a day and a time, with or without blanks between them. -/
def takeMoment (cs : List Char) : Option (Moment × List Char) := do
  let (date, rest) <- takeDate cs
  let (time, rest) <- takeTime rest
  return (⟨date, time⟩, rest)

def takePair : List Char -> Option (Nat × List Char)
  | a :: b :: rest =>
      if a.isDigit && b.isDigit then some (Number.digitsValue [a, b], rest) else none
  | _ => none

/-- Take the minutes of an offset, which may be left out at the end of a text. -/
def takeOffsetMinutes (cs : List Char) : Option (Nat × List Char) :=
  if cs.isEmpty then some (0, [])
  else (takePair cs).filter fun found => found.1 < 60

/-- Take an offset in minutes behind blanks: `Z`, or a sign, hours and minutes. -/
def takeOffset (cs : List Char) : Option (Int × List Char) :=
  let behindSign := fun (rest : List Char) => do
    let (hours, rest) <- takePair rest
    let (minutes, rest) <- takeOffsetMinutes (rest.dropWhile fun c => c == ':' || Text.isBlank c)
    return (Int.ofNat (hours * 60 + minutes), rest)
  match Text.trimStart cs with
  | 'Z' :: rest => some (0, rest)
  | 'z' :: rest => some (0, rest)
  | '+' :: rest => behindSign rest
  | '-' :: rest => (behindSign rest).map fun found => (-found.1, found.2)
  | c :: rest =>
      if c.toNat = 0x2212 then (behindSign rest).map fun found => (-found.1, found.2) else none
  | [] => none

/-- What was taken, if nothing is left behind it. -/
def whole {α : Type} : Option (α × List Char) -> Option α
  | some (a, []) => some a
  | _ => none

end Reading

def Date.read? (s : String) : Option Date :=
  Reading.whole (Reading.takeDate s.toList)

def TimeOfDay.read? (s : String) : Option TimeOfDay :=
  Reading.whole (Reading.takeTime s.toList)

/-- The moment that a text tells; an offset has to stand in one with a plus sign, and is ignored. -/
def Moment.read? (s : String) : Option Moment := do
  let (moment, rest) <- Reading.takeMoment s.toList
  if s.toList.contains '+' then
    let _ <- Reading.whole (Reading.takeOffset rest)
    return moment
  else Reading.whole (some (moment, rest))

/-- The moment that a text with an offset of less than a day tells, as it is all over the world. -/
def Moment.readUniversal? (s : String) : Option Moment := do
  let (moment, rest) <- Reading.takeMoment s.toList
  let offset <- Reading.whole (Reading.takeOffset rest)
  if offset.natAbs < 1440 then moment.earlier? offset else none

end Calendar
end SqlGate
