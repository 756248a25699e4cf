import SqlGate.Embedded.Cell

namespace SqlGate

/-!
# Arithmetic on cells

Integers are computed exactly; a result that does not fit into 64 bits, and
every computation with a double, is done on doubles.  Nothing computed from
null is anything but null, and neither is a quotient by zero.
-/

namespace Binary64

/-- The sum of two numbers; opposite infinities have none. -/
def add (x y : Binary64) : Binary64 :=
  if x.isNaN || y.isNaN then nan
  else if x.isInfinite then
    if y.isInfinite && x.isNegative != y.isNegative then nan else x
  else if y.isInfinite then y
  else ofSignedUnits (x.signedUnits + y.signedUnits)

/-- The product of two numbers; zero times infinity has none. -/
def mul (x y : Binary64) : Binary64 :=
  if x.isNaN || y.isNaN then nan
  else if x.isFinite && y.isFinite then mulFinite x y
  else if x.isZero || y.isZero then nan
  else infinite (x.isNegative != y.isNegative)

/-- The quotient of two numbers by one that is not zero. -/
def div (x y : Binary64) : Binary64 :=
  if x.isNaN || y.isNaN then nan
  else if x.isFinite && y.isFinite then divFinite x y
  else if y.isFinite then infinite (x.isNegative != y.isNegative)
  else if x.isFinite then ofPlace (x.isNegative != y.isNegative) 0
  else nan

end Binary64

namespace Cell

/-- The double of a cell that counts as a number. -/
def toReal : Cell -> Binary64
  | .int n => Binary64.ofInt n.toInt
  | .real x => x
  | _ => Binary64.zero

/-- The nearest integer of 64 bits. -/
def clamped (n : Int) : Int :=
  max (-9223372036854775808) (min 9223372036854775807 n)

/-- The integer at the beginning of a text, zero if there is none. -/
def wholePrefix (s : String) : Int :=
  let signed := Number.takeSign (s.toList.dropWhile isSpace)
  let n := Int.ofNat (Number.digitsValue (signed.2.takeWhile Char.isDigit))
  clamped (if signed.1 then -n else n)

/-- The integer part of a cell: a double loses its fraction, a text all behind its digits. -/
def toWhole : Cell -> Int
  | .null => 0
  | .int n => n.toInt
  | .real x =>
      if x.isFinite then clamped x.truncate
      else if x.isNegative then -9223372036854775808
      else 9223372036854775807
  | .text s => wholePrefix s
  | .blob bytes => wholePrefix (String.ofList (Bytes.Utf8.decodeLossy bytes))

/-- A sum, difference or product: exact on integers where it fits, else on doubles. -/
def compute (exact : Int -> Int -> Int) (rounded : Binary64 -> Binary64 -> Binary64)
    (a b : Cell) : Cell :=
  match a.toNumber, b.toNumber with
  | .null, _ | _, .null => .null
  | .int m, .int n =>
      if fits (exact m.toInt n.toInt) then ofInt (exact m.toInt n.toInt)
      else ofReal (rounded (Binary64.ofInt m.toInt) (Binary64.ofInt n.toInt))
  | x, y => ofReal (rounded x.toReal y.toReal)

def add : Cell -> Cell -> Cell :=
  compute (· + ·) Binary64.add

def sub : Cell -> Cell -> Cell :=
  compute (· - ·) fun x y => x.add y.neg

def mul : Cell -> Cell -> Cell :=
  compute (· * ·) Binary64.mul

/-- The quotient: of integers without its fraction. -/
def div (a b : Cell) : Cell :=
  match a.toNumber, b.toNumber with
  | .null, _ | _, .null => .null
  | .int m, .int n =>
      if n = 0 then .null
      else if fits (Int.tdiv m.toInt n.toInt) then ofInt (Int.tdiv m.toInt n.toInt)
      else ofReal ((Binary64.ofInt m.toInt).div (Binary64.ofInt n.toInt))
  | x, y => if y.toReal.isZero then .null else ofReal (x.toReal.div y.toReal)

/-- The remainder of the integer parts: an integer of two integers, else a double. -/
def rem (a b : Cell) : Cell :=
  match a.toNumber, b.toNumber with
  | .null, _ | _, .null => .null
  | .int m, .int n => if n = 0 then .null else ofInt (Int.tmod m.toInt n.toInt)
  | _, _ =>
      if b.toWhole = 0 then .null else ofReal (Binary64.ofInt (Int.tmod a.toWhole b.toWhole))

def negate (a : Cell) : Cell :=
  sub (.int 0) a

def concat (a b : Cell) : Cell :=
  match a.toText?, b.toText? with
  | some s, some t => .text (s ++ t)
  | _, _ => .null

/-! ## Patterns -/

/-- What is left of a list after each of its elements, the whole list first. -/
def suffixes {α : Type} : List α -> List (List α)
  | [] => [[]]
  | a :: rest => (a :: rest) :: suffixes rest

/--
Whether a text fits a pattern: a percent sign stands for any characters, an
underscore for one, and letters of ASCII for themselves in either case.
-/
def fitsPattern : List Char -> List Char -> Bool
  | [], s => s.isEmpty
  | c :: p, s =>
      if c = '%' then (suffixes s).any fun rest => fitsPattern p rest
      else
        match s with
        | [] => false
        | d :: rest => (c = '_' || c.toLower = d.toLower) && fitsPattern p rest

/-- Whether the text of a cell fits the pattern of another. -/
def like (a pattern : Cell) : Truth :=
  match a.toText?, pattern.toText? with
  | some s, some p => some (fitsPattern p.toList s.toList)
  | _, _ => none

end Cell
end SqlGate
