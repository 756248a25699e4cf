import SqlGate.Number.Rounding

namespace SqlGate

/-!
# Double-precision numbers

A double is its 64 bits: a sign and a place on the grid of
`Number.Format.double`.  Arithmetic is exact on units and rounds once, so every
operation here can be evaluated and reasoned about in natural numbers.
-/

/-- A double-precision number, given by its bits. -/
structure Binary64 where
  /-- Sign, exponent and fraction. -/
  bits : UInt64
deriving DecidableEq, Inhabited

namespace Binary64

open Number

def isNegative (x : Binary64) : Bool :=
  Nat.pow 2 63 ≤ x.bits.toNat

/-- The bits without the sign. -/
def place (x : Binary64) : Nat :=
  x.bits.toNat % Nat.pow 2 63

def isFinite (x : Binary64) : Bool :=
  x.place < Format.double.infinity

def isInfinite (x : Binary64) : Bool :=
  x.place == Format.double.infinity

def isNaN (x : Binary64) : Bool :=
  Format.double.infinity < x.place

def isZero (x : Binary64) : Bool :=
  x.place == 0

def ofPlace (negative : Bool) (place : Nat) : Binary64 :=
  ⟨UInt64.ofNat ((if negative then Nat.pow 2 63 else 0) + place)⟩

def zero : Binary64 := ofPlace false 0

def infinite (negative : Bool) : Binary64 :=
  ofPlace negative Format.double.infinity

/-- The quiet NaN without a payload. -/
def nan : Binary64 := ofPlace false (Format.double.infinity + Nat.pow 2 51)

def neg (x : Binary64) : Binary64 :=
  ofPlace (!x.isNegative) x.place

/-- The absolute value in units, for a finite number. -/
def units (x : Binary64) : Nat :=
  Format.double.units x.place

/-- The value in units, for a finite number. -/
def signedUnits (x : Binary64) : Int :=
  if x.isNegative then -(Int.ofNat x.units) else Int.ofNat x.units

/-- How many units one is. -/
def unitsPerOne : Nat := Nat.pow 2 Format.double.unitExponent

/-- The number nearest to `num / den`. -/
def ofRatio (negative : Bool) (num den : Nat) : Binary64 :=
  ofPlace negative (Format.double.nearest (num * unitsPerOne) den)

def ofNat (n : Nat) : Binary64 :=
  ofRatio false n 1

def ofInt (n : Int) : Binary64 :=
  ofRatio (n < 0) n.natAbs 1

/-- The number of decimal digits of a natural number, at least one. -/
def digitCount (n : Nat) : Nat :=
  (Nat.toDigits 10 n).length

/--
The number nearest to `significand * 10 ^ exponent`.  Beyond the range of the
format the answer is known without computing the power.
-/
def ofDecimal (negative : Bool) (significand : Nat) (exponent : Int) : Binary64 :=
  let top := exponent + Int.ofNat (digitCount significand)
  if significand = 0 || top < -400 then ofPlace negative 0
  else if 400 < top then infinite negative
  else ofPlace negative (Format.double.nearestDecimal significand exponent)

/-- The single-precision number with the given bits, which is a double too. -/
def ofSingleBits (bits : Nat) : Binary64 :=
  let negative := Nat.pow 2 31 ≤ bits % Nat.pow 2 32
  let place := bits % Nat.pow 2 31
  if place < Format.single.infinity then
    let finer := Nat.pow 2 (Format.double.unitExponent - Format.single.unitExponent)
    ofPlace negative (Format.double.nearest (Format.single.units place * finer) 1)
  else if place = Format.single.infinity then infinite negative
  else
    ofPlace negative (Format.double.infinity
      + (place % Nat.pow 2 23 ||| Nat.pow 2 22) * Nat.pow 2 29)

/-- The single-precision number nearest to `significand * 10 ^ exponent`. -/
def ofSingleDecimal (negative : Bool) (significand : Nat) (exponent : Int) : Binary64 :=
  let top := exponent + Int.ofNat (digitCount significand)
  let place :=
    if significand = 0 || top < -400 then 0
    else if 400 < top then Format.single.infinity
    else Format.single.nearestDecimal significand exponent
  ofSingleBits ((if negative then Nat.pow 2 31 else 0) + place)

def mulFinite (x y : Binary64) : Binary64 :=
  ofPlace (x.isNegative != y.isNegative) (Format.double.nearest (x.units * y.units) unitsPerOne)

/-- Division of finite numbers by one that is not zero. -/
def divFinite (x y : Binary64) : Binary64 :=
  ofPlace (x.isNegative != y.isNegative) (Format.double.nearest (x.units * unitsPerOne) y.units)

/-- The number nearest to a signed count of units; zero is positive. -/
def ofSignedUnits (n : Int) : Binary64 :=
  ofPlace (n < 0) (Format.double.nearest n.natAbs 1)

/-- The order of two numbers that are not NaN; the two zeros are equal. -/
def compareNumbers (x y : Binary64) : Ordering :=
  let key := fun (z : Binary64) =>
    if z.isNegative then -(Int.ofNat z.place) else Int.ofNat z.place
  compare (key x) (key y)

/-- Equality of numbers: the zeros are equal, a NaN equals nothing. -/
def sameNumber (x y : Binary64) : Bool :=
  !x.isNaN && !y.isNaN && compareNumbers x y == .eq

/-- The order of a number that is not NaN and an integer, compared exactly. -/
def compareInt (x : Binary64) (n : Int) : Ordering :=
  if x.isFinite then compare x.signedUnits (n * Int.ofNat unitsPerOne)
  else if x.isNegative then .lt
  else .gt

def truncate (x : Binary64) : Int :=
  Int.tdiv x.signedUnits (Int.ofNat unitsPerOne)

end Binary64
end SqlGate
