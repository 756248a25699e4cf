namespace SqlGate
namespace Number

/-!
# Rounding to a binary grid

A binary floating-point format is a finite grid of numbers.  Read without its
sign, the bit pattern of a number is its place on the grid, and all numbers are
whole multiples of the least positive one, the *unit*.  So a format is known by
two widths, and rounding is done on natural numbers: a ratio of units goes to
the nearest place, and halfway to the place that is even.
-/

/-- The ratio `num / den` rounded to the nearest whole number, halves to even. -/
def roundHalfEven (num den : Nat) : Nat :=
  let quotient := num / den
  let rest := num % den
  if 2 * rest < den then quotient
  else if 2 * rest = den then quotient + quotient % 2
  else quotient + 1

/-- The widths of the two fields of a floating-point format. -/
structure Format where
  /-- Bits stored of the fraction. -/
  fractionBits : Nat
  exponentBits : Nat

namespace Format

def double : Format := ⟨52, 11⟩

def single : Format := ⟨23, 8⟩

/-- The least positive number is `2` to the minus `unitExponent`. -/
def unitExponent (format : Format) : Nat :=
  Nat.pow 2 (format.exponentBits - 1) - 2 + format.fractionBits

/-- The place of infinity, one behind the last finite number. -/
def infinity (format : Format) : Nat :=
  (Nat.pow 2 format.exponentBits - 1) * Nat.pow 2 format.fractionBits

/-- The number at a finite place, counted in units. -/
def units (format : Format) (place : Nat) : Nat :=
  let exponent := place / Nat.pow 2 format.fractionBits
  let fraction := place % Nat.pow 2 format.fractionBits
  if exponent = 0 then fraction
  else (Nat.pow 2 format.fractionBits + fraction) * Nat.pow 2 (exponent - 1)

/-- The bits of `num / den` that do not fit into a significand. -/
def excess (format : Format) (num den : Nat) : Nat :=
  Nat.log2 (num / den) - format.fractionBits

/-- The place nearest to `num / den` units; too large a ratio goes to infinity. -/
def nearest (format : Format) (num den : Nat) : Nat :=
  let shift := format.excess num den
  let rounded := roundHalfEven num (den * Nat.pow 2 shift)
  min (shift * Nat.pow 2 format.fractionBits + rounded) format.infinity

/-- The place nearest to `significand * 10 ^ exponent`. -/
def nearestDecimal (format : Format) (significand : Nat) (exponent : Int) : Nat :=
  let unit := Nat.pow 2 format.unitExponent
  match exponent with
  | .ofNat e => format.nearest (significand * Nat.pow 10 e * unit) 1
  | .negSucc e => format.nearest (significand * unit) (Nat.pow 10 (e + 1))

end Format

end Number
end SqlGate
