import SqlGate.Number.Binary64
import SqlGate.Text.Case
import SqlGate.Text.Digits

namespace SqlGate
namespace Number

/-!
# Doubles from text

A number in text is an optional sign, digits with at most one point among or
around them, and an optional exponent; at least one digit stands in front of
the exponent.  `longestNumber` takes the longest such text from the front, and
`float?` reads a text that holds nothing else, or one of the words for infinity
and NaN.
-/

/-- A number found at the front of a text. -/
structure Found where
  /-- Whether a minus sign stands in front. -/
  negative : Bool
  /-- All digits, read as one number. -/
  significand : Nat
  /-- The power of ten that the digits are multiplied with. -/
  exponent : Int
  /-- Whether neither a point nor an exponent was written. -/
  whole : Bool
  /-- What follows. -/
  rest : List Char
deriving Repr

def digitsValue (cs : List Char) : Nat :=
  cs.foldl (fun n c => n * 10 + (c.toNat - '0'.toNat)) 0

def takeSign : List Char -> Bool × List Char
  | '-' :: rest => (true, rest)
  | '+' :: rest => (false, rest)
  | cs => (false, cs)

/-- The exponent at the front of a text, if a complete one stands there. -/
def takeExponent : List Char -> Option (Int × List Char)
  | c :: rest =>
      if c = 'e' ∨ c = 'E' then
        let signed := takeSign rest
        let digits := signed.2.takeWhile Char.isDigit
        if digits.isEmpty then none
        else
          let n := Int.ofNat (digitsValue digits)
          some (if signed.1 then -n else n, signed.2.dropWhile Char.isDigit)
      else none
  | [] => none

/-- The longest number at the front of a text. -/
def longestNumber (cs : List Char) : Option Found :=
  let signed := takeSign cs
  let front := signed.2.takeWhile Char.isDigit
  let afterFront := signed.2.dropWhile Char.isDigit
  let point := afterFront.head? == some '.'
  let behind := if point then (afterFront.drop 1).takeWhile Char.isDigit else []
  let afterBehind := if point then (afterFront.drop 1).dropWhile Char.isDigit else afterFront
  if front.isEmpty && behind.isEmpty then none
  else
    let significand := digitsValue (front ++ behind)
    let shift := -(Int.ofNat behind.length)
    match takeExponent afterBehind with
    | some (e, rest) => some ⟨signed.1, significand, shift + e, false, rest⟩
    | none => some ⟨signed.1, significand, shift, !point, afterBehind⟩

/-- The double nearest to a number found in text. -/
def Found.toBinary64 (found : Found) : Binary64 :=
  Binary64.ofDecimal found.negative found.significand found.exponent

/-- The single-precision number nearest to a number found in text, which is a double too. -/
def Found.toSingle (found : Found) : Binary64 :=
  Binary64.ofSingleDecimal found.negative found.significand found.exponent

/-- The words for infinity and NaN, in any case. -/
def wordValue? (word : List Char) : Option Nat :=
  let w := word.map Char.toLower
  if w = "inf".toList ∨ w = "infinity".toList then some Format.double.infinity
  else if w = "nan".toList then some (Format.double.infinity + Nat.pow 2 51)
  else none

/-- The number that a whole text stands for, rounded as the caller asks. -/
def numberOf? (round : Found -> Binary64) (s : String) : Option Binary64 :=
  match longestNumber s.toList with
  | some found => if found.rest.isEmpty then some (round found) else none
  | none =>
      let signed := takeSign s.toList
      (wordValue? signed.2).map (Binary64.ofPlace signed.1)

/-- The double that a whole text stands for. -/
def float? (s : String) : Option Binary64 :=
  numberOf? Found.toBinary64 s

/-- The single-precision number that a whole text stands for. -/
def single? (s : String) : Option Binary64 :=
  numberOf? Found.toSingle s

end Number
end SqlGate
