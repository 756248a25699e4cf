namespace SqlGate
namespace Text

/-!
# Whole numbers in decimal text

A whole number is read from an optional sign and at least one ASCII digit,
with nothing before, between or after.  A minus sign is accepted only where
the caller asks for a signed number.
-/

def digit? (c : Char) : Option Nat :=
  if c.isDigit then some (c.toNat - '0'.toNat) else none

/-- The value of a run of ASCII digits, `none` when another character occurs. -/
def natFromDigits (value : Nat) : List Char -> Option Nat
  | [] => some value
  | c :: rest =>
      match digit? c with
      | some d => natFromDigits (value * 10 + d) rest
      | none => none

/-- At least one digit and nothing else. -/
def digitsToNat? : List Char -> Option Nat
  | [] => none
  | cs => natFromDigits 0 cs

/-- An unsigned number below `2 ^ width`; a plus sign may stand in front. -/
def unsigned? (width : Nat) (s : String) : Option Nat :=
  let found :=
    match s.toList with
    | '+' :: rest => digitsToNat? rest
    | cs => digitsToNat? cs
  found.filter (· < Nat.pow 2 width)

/-- A signed number of `width` bits in two's complement range. -/
def signed? (width : Nat) (s : String) : Option Int :=
  let found : Option Int :=
    match s.toList with
    | '+' :: rest => (digitsToNat? rest).map Int.ofNat
    | '-' :: rest => (digitsToNat? rest).map fun n => -(Int.ofNat n)
    | cs => (digitsToNat? cs).map Int.ofNat
  let bound := Int.ofNat (Nat.pow 2 (width - 1))
  found.filter fun n => -bound ≤ n && n < bound

/-- The decimal digits of a number, the most significant first. -/
def ofNat (n : Nat) : List Char :=
  Nat.toDigits 10 n

def ofInt (n : Int) : String :=
  match n with
  | .ofNat k => String.ofList (ofNat k)
  | .negSucc k => String.ofList ('-' :: ofNat (k + 1))

/-- A number with zeros in front up to `width` digits. -/
def padded (width n : Nat) : String :=
  let digits := ofNat n
  String.ofList (List.replicate (width - digits.length) '0' ++ digits)

end Text
end SqlGate
