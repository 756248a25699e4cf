import SqlGate.Number.Decimal
import SqlGate.Text.Digits

namespace SqlGate
namespace Number

/-!
# How doubles are written

Three writers share one set of digits and differ in where they stop writing a
number positionally and in what they put behind a whole number.
-/

/-- The digits of a decimal as characters. -/
def Decimal.characters (d : Decimal) : List Char :=
  Text.ofNat d.digits

/-- The characters in front of the point and behind it. -/
def positionalParts (d : Decimal) : List Char × List Char :=
  let cs := d.characters
  match d.exponent with
  | .ofNat e => (cs ++ List.replicate (if d.digits = 0 then 0 else e) '0', [])
  | .negSucc e =>
      let places := e + 1
      if places < cs.length then (cs.take (cs.length - places), cs.drop (cs.length - places))
      else (['0'], List.replicate (places - cs.length) '0' ++ cs)

/-- Digits with a point; a whole number gets `whole` behind it. -/
def positional (whole : List Char) (d : Decimal) : List Char :=
  match positionalParts d with
  | (front, []) => front ++ whole
  | (front, behind) => front ++ '.' :: behind

/-- The first digit, and behind a point the others; one digit alone gets `single`. -/
def significandText (single : List Char) (d : Decimal) : List Char :=
  match d.characters with
  | [] => []
  | [c] => c :: single
  | c :: rest => c :: '.' :: rest

/-- An exponent with its sign, padded with zeros to `width` digits. -/
def exponentText (width : Nat) (e : Int) : List Char :=
  (if e < 0 then '-' else '+') :: (Text.padded width e.natAbs).toList

/-- Where a writer changes to exponents and how it writes numbers without a fraction. -/
structure Layout where
  /-- The least exponent of a number written positionally. -/
  positionalFrom : Int
  /-- The first exponent of a number that is not written positionally any more. -/
  positionalBelow : Int
  /-- What follows a whole number. -/
  whole : List Char
  /-- What follows a single digit in front of an exponent. -/
  single : List Char
  /-- The least count of digits of an exponent. -/
  exponentWidth : Nat

namespace Layout

/-- JSON documents: positional from `1e-5` up to `1e16`, and always a fraction or an exponent. -/
def json : Layout := ⟨-5, 16, ['.', '0'], [], 1⟩

/-- Stored numbers converted to text: fifteen digits are positional, and always a fraction. -/
def stored : Layout := ⟨-4, 15, ['.', '0'], ['.', '0'], 2⟩

def write (layout : Layout) (d : Decimal) : List Char :=
  let e := d.scientificExponent
  if layout.positionalFrom ≤ e && e < layout.positionalBelow then positional layout.whole d
  else significandText layout.single d ++ 'e' :: exponentText layout.exponentWidth e

end Layout

/-- A minus sign in front of negative numbers, the negative zero included. -/
def withSign (x : Binary64) (cs : List Char) : List Char :=
  if x.isNegative then '-' :: cs else cs

/-- The number of a JSON document. -/
def jsonText (x : Binary64) : String :=
  String.ofList (withSign x (Layout.json.write (shortest x)))

/-- The text of a number on its own: positional throughout, and words for the others. -/
def plainText (x : Binary64) : String :=
  if x.isNaN then "NaN"
  else if x.isInfinite then (if x.isNegative then "-inf" else "inf")
  else String.ofList (withSign x (positional [] (shortest x)))

/-- The text of a stored number, to fifteen digits. -/
def storedText (x : Binary64) : String :=
  if x.isNaN then ""
  else if x.isInfinite then (if x.isNegative then "-Inf" else "Inf")
  else if x.isZero then "0.0"
  else String.ofList (withSign x (Layout.stored.write (rounded 15 x)))

end Number
end SqlGate
