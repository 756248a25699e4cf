import SqlGate.Number.Binary64

namespace SqlGate
namespace Number

/-!
# Decimal digits of a double

Every finite double is printed from a decimal: a run of digits and the place
of the point.  `shortest` gives the fewest digits that read back as the same
number, the nearest of these, and `rounded` a fixed count of digits.
-/

/-- The number `digits * 10 ^ exponent`. -/
structure Decimal where
  /-- The digits, read as a natural number. -/
  digits : Nat
  /-- The power of ten they are multiplied with. -/
  exponent : Int
deriving DecidableEq, Inhabited, Repr

namespace Decimal

/-- The exponent in front of which the point stands behind the first digit. -/
def scientificExponent (d : Decimal) : Int :=
  d.exponent + Int.ofNat (Binary64.digitCount d.digits) - 1

/-- Take one zero after the other from the end. -/
def trimZeros : Nat -> Decimal -> Decimal
  | 0, d => d
  | fuel + 1, d =>
      if d.digits ≠ 0 ∧ d.digits % 10 = 0 then
        trimZeros fuel ⟨d.digits / 10, d.exponent + 1⟩
      else d

/-- The same number without zeros at the end of its digits. -/
def normal (d : Decimal) : Decimal :=
  if d.digits = 0 then ⟨0, 0⟩ else trimZeros (Binary64.digitCount d.digits) d

end Decimal

/-- The power of ten at or below `num / den`. -/
def powerBelow (num den : Nat) : Int :=
  if den ≤ num then Int.ofNat (Binary64.digitCount (num / den)) - 1
  else
    let inverse := (den + num - 1) / num
    Int.negOfNat (if inverse ≤ 1 then 0 else Binary64.digitCount (inverse - 1))

/-- The ratio `num / den` in steps of `10 ^ exponent`, as a ratio again. -/
def inSteps (num den : Nat) (exponent : Int) : Nat × Nat :=
  match exponent with
  | .ofNat e => (num, den * Nat.pow 10 e)
  | .negSucc e => (num * Nat.pow 10 (e + 1), den)

/-- The better of the two neighbours on one decimal grid that read back, if any does. -/
def readBackOn (format : Format) (place num den : Nat) (exponent : Int) : Option Decimal :=
  let steps := inSteps num den exponent
  let low := steps.1 / steps.2
  let reads := fun n => format.nearestDecimal n exponent == place
  match reads low, reads (low + 1) with
  | true, true =>
      let twice := 2 * (steps.1 % steps.2)
      if twice < steps.2 then some ⟨low, exponent⟩
      else if twice = steps.2 then some ⟨low + low % 2, exponent⟩
      else some ⟨low + 1, exponent⟩
  | true, false => some ⟨low, exponent⟩
  | false, true => some ⟨low + 1, exponent⟩
  | false, false => none

/-- The first grid, from the coarsest on, on which the number reads back. -/
def shortestFrom (format : Format) (place num den : Nat) (top : Int) :
    Nat -> Nat -> Option Decimal
  | 0, _ => none
  | fuel + 1, count =>
      match readBackOn format place num den (top - Int.ofNat count + 1) with
      | some d => some d
      | none => shortestFrom format place num den top fuel (count + 1)

/-- The shortest decimal that reads back as the number at a finite place. -/
def shortestOf (format : Format) (place : Nat) : Decimal :=
  let num := format.units place
  let den := Nat.pow 2 format.unitExponent
  if num = 0 then ⟨0, 0⟩
  else
    let top := powerBelow num den
    match shortestFrom format place num den top 17 1 with
    | some d => d.normal
    | none =>
        let scaled := num * Nat.pow 5 format.unitExponent
        (Decimal.mk scaled (-(Int.ofNat format.unitExponent))).normal

/-- The shortest decimal of the absolute value of a finite double. -/
def shortest (x : Binary64) : Decimal :=
  shortestOf Format.double x.place

/-- The absolute value of a finite double with `count` digits, halves away from zero. -/
def rounded (count : Nat) (x : Binary64) : Decimal :=
  let num := x.units
  let den := Binary64.unitsPerOne
  if num = 0 then ⟨0, 0⟩
  else
    let exponent := powerBelow num den - Int.ofNat count + 1
    let steps := inSteps num den exponent
    (Decimal.mk ((2 * steps.1 + steps.2) / (2 * steps.2)) exponent).normal

end Number
end SqlGate
