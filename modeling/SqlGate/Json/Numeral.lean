import SqlGate.Json.Basic
import SqlGate.Number.Layout

namespace SqlGate
namespace Json

/-!
# Number literals

A literal keeps a significand of 64 bits: a digit that would exceed it is
dropped, and with it all later ones, which counts in the exponent for digits in
front of the point.  A literal without point and exponent is a whole number if
it fits; every other literal is its significand as a double, multiplied with or
divided by a double power of ten.  A literal beyond the doubles has no value.
-/

/-- The parts of a number literal. -/
structure Literal where
  /-- Whether a minus sign stands in front. -/
  negative : Bool
  /-- The digits in front of the point. -/
  front : List Char
  /-- The digits behind the point, if there is one. -/
  behind : Option (List Char)
  /-- The exponent, if there is one. -/
  exponent : Option Int

/-- Append digits to a significand as long as it stays below `2 ^ 64`. -/
def appendDigits (significand : Nat) : List Char -> Nat × List Char
  | [] => (significand, [])
  | c :: rest =>
      let longer := significand * 10 + (c.toNat - '0'.toNat)
      if longer < 18446744073709551616 then appendDigits longer rest else (significand, c :: rest)

def powerOfTen (e : Nat) : Binary64 :=
  Binary64.ofDecimal false 1 (Int.ofNat e)

/-- The greatest power of ten that is a double. -/
def greatestPower : Nat := 308

/-- A significand with an exponent, rounded once in each step; `none` beyond the doubles. -/
def scaled? (negative : Bool) (significand : Nat) (exponent : Int) : Option Binary64 :=
  let start := Binary64.ofPlace negative (Binary64.ofNat significand).place
  if significand = 0 then some start
  else
    match exponent with
    | .ofNat e =>
        if e ≤ greatestPower then
          some (start.mulFinite (powerOfTen e)) |>.filter Binary64.isFinite
        else none
    | .negSucc k =>
        let e := k + 1
        if e ≤ greatestPower then some (start.divFinite (powerOfTen e))
        else if e ≤ 2 * greatestPower then
          some ((start.divFinite (powerOfTen greatestPower)).divFinite
            (powerOfTen (e - greatestPower)))
        else some (Binary64.ofPlace negative 0)

def Numeral.ofFinite? (x : Binary64) : Option Numeral :=
  if h : x.isFinite = true then some (.float x h) else none

def Numeral.ofInt? (n : Int) : Option Numeral :=
  if h : -9223372036854775808 ≤ n ∧ n < 18446744073709551616 then some (.whole n h) else none

/-- The number that a literal stands for. -/
def Literal.value? (literal : Literal) : Option Numeral :=
  let front := appendDigits 0 literal.front
  match literal.behind, literal.exponent, front.2 with
  | none, none, [] =>
      if !literal.negative then Numeral.ofInt? (Int.ofNat front.1)
      else if front.1 = 0 || 9223372036854775808 < front.1 then
        Numeral.ofFinite? (Binary64.ofPlace true (Binary64.ofNat front.1).place)
      else Numeral.ofInt? (-(Int.ofNat front.1))
  | behind, exponent, dropped =>
      let digits := behind.getD []
      let all := appendDigits front.1 digits
      let taken := digits.length - all.2.length
      let shift := Int.ofNat dropped.length - Int.ofNat taken + exponent.getD 0
      (scaled? literal.negative all.1 shift).bind Numeral.ofFinite?

def Numeral.write : Numeral -> List Char
  | .whole n _ => (Text.ofInt n).toList
  | .float x _ => (Number.jsonText x).toList

end Json
end SqlGate
