import SqlGate.Bytes.Utf8
import SqlGate.Embedded.Truth
import SqlGate.Number.Layout
import SqlGate.Number.Reading

namespace SqlGate

/-!
# Cells

A cell of a table holds a value of one of five classes, whatever its column was
declared to hold.  The declared type of a column only gives it an affinity: a
cell is converted to it when it is stored, and when it is compared, if nothing
is lost.
-/

/-- A stored value. -/
inductive Cell where
  | null
  | int (value : Int64)
  | real (value : Binary64)
  | text (value : String)
  | blob (bytes : List UInt8)
deriving DecidableEq, Inhabited

namespace Cell

def isNull : Cell -> Bool
  | .null => true
  | _ => false

/-- A cell of a double; what is not a number is stored as nothing. -/
def ofReal (x : Binary64) : Cell :=
  if x.isNaN then .null else .real x

/-- Whether an integer is one of 64 bits. -/
def fits (n : Int) : Bool :=
  -9223372036854775808 ≤ n && n < 9223372036854775808

/-- A cell of an integer: beyond 64 bits it is the nearest double. -/
def ofInt (n : Int) : Cell :=
  if fits n then .int (Int64.ofInt n) else .real (Binary64.ofInt n)

/-- A cell of a condition. -/
def ofTruth : Truth -> Cell
  | some true => .int 1
  | some false => .int 0
  | none => .null

/-! ## Numbers in text -/

/-- The blanks that may surround a number. -/
def isSpace (c : Char) : Bool :=
  c = ' ' || (9 ≤ c.toNat && c.toNat ≤ 13)

/-- The number that a literal found in a text stands for. -/
def ofFound (found : Number.Found) : Cell :=
  let n := Int.ofNat found.significand
  let signed := if found.negative then -n else n
  if found.whole && fits signed then .int (Int64.ofInt signed) else .real found.toBinary64

/-- The number that a whole text stands for; blanks may surround it. -/
def ofNumberText? (s : String) : Option Cell :=
  match Number.longestNumber (s.toList.dropWhile isSpace) with
  | some found => if found.rest.all isSpace then some (ofFound found) else none
  | none => none

/-- The number at the beginning of a text, zero if there is none. -/
def ofNumberPrefix (s : String) : Cell :=
  match Number.longestNumber (s.toList.dropWhile isSpace) with
  | some found => ofFound found
  | none => .int 0

/-! ## Views of a cell -/

def toText? : Cell -> Option String
  | .null => none
  | .int n => some (Text.ofInt n.toInt)
  | .real x => some (Number.storedText x)
  | .text s => some s
  | .blob bytes => some (String.ofList (Bytes.Utf8.decodeLossy bytes))

/-- The number that a cell counts as in arithmetic; null stays null. -/
def toNumber : Cell -> Cell
  | .text s => ofNumberPrefix s
  | .blob bytes => ofNumberPrefix (String.ofList (Bytes.Utf8.decodeLossy bytes))
  | cell => cell

/-- The truth of a cell: a number is true unless it is zero. -/
def truth (cell : Cell) : Truth :=
  match cell.toNumber with
  | .int n => some (n != 0)
  | .real x => some (!x.isZero)
  | _ => none

/-! ## Order -/

/-- The rank of a class: null, numbers, texts, blobs. -/
def rank : Cell -> Nat
  | .null => 0
  | .int _ | .real _ => 1
  | .text _ => 2
  | .blob _ => 3

def compareBytes : List UInt8 -> List UInt8 -> Ordering
  | [], [] => .eq
  | [], _ :: _ => .lt
  | _ :: _, [] => .gt
  | a :: as, b :: bs => (compare a b).then (compareBytes as bs)

/-- The order of two cells: by class first, numbers by value, texts by code point. -/
def compare (a b : Cell) : Ordering :=
  match a, b with
  | .int m, .int n => Ord.compare m.toInt n.toInt
  | .int m, .real y => (y.compareInt m.toInt).swap
  | .real x, .int n => x.compareInt n.toInt
  | .real x, .real y => x.compareNumbers y
  | .text s, .text t => Ord.compare s t
  | .blob xs, .blob ys => compareBytes xs ys
  | a, b => Ord.compare a.rank b.rank

end Cell

/-! ## Affinity -/

/-- What a column prefers to hold. -/
inductive Affinity where
  | integer
  | real
  | text
  | blob
  | numeric
deriving DecidableEq, Repr

namespace Affinity

/-- The affinity of a declared type, found in its name. -/
def ofDeclared (declared : String) : Affinity :=
  let name := Text.lower declared
  let mentions := fun parts => List.any parts (Text.contains name)
  if mentions ["int"] then .integer
  else if mentions ["char", "clob", "text"] then .text
  else if mentions ["blob"] || name.isEmpty then .blob
  else if mentions ["real", "floa", "doub"] then .real
  else .numeric

def isNumeric : Affinity -> Bool
  | .integer | .real | .numeric => true
  | .text | .blob => false

/-- A double as an integer where nothing is lost. -/
def wholeIfExact (x : Binary64) : Cell :=
  let n := if x.isFinite then x.truncate else 0
  if x.compareInt n = .eq ∧ -9223372036854775808 < n ∧ n < 9223372036854775807 then
    .int (Int64.ofInt n)
  else .real x

/-- A cell as a number where it is one, and as an integer where nothing is lost. -/
def toNumeric : Cell -> Cell
  | .text s =>
      match Cell.ofNumberText? s with
      | some (.real x) => wholeIfExact x
      | some cell => cell
      | none => .text s
  | .real x => wholeIfExact x
  | cell => cell

def toReal : Cell -> Cell
  | .int n => .real (Binary64.ofInt n.toInt)
  | cell => cell

def toTextual : Cell -> Cell
  | .int n => .text (Text.ofInt n.toInt)
  | .real x => .text (Number.storedText x)
  | cell => cell

/-- The cell that is stored for one that is written to a column. -/
def store (affinity : Affinity) (cell : Cell) : Cell :=
  match affinity with
  | .integer | .numeric => toNumeric cell
  | .real => toReal (toNumeric cell)
  | .text => toTextual cell
  | .blob => cell

/-! ## Comparison -/

/-- The affinity under which two operands are compared. -/
def common : Option Affinity -> Option Affinity -> Option Affinity
  | some a, some b => if a.isNumeric || b.isNumeric then some .numeric else some .blob
  | some a, none => some a
  | none, b => b

/-- A text that stands for a number as that number. -/
def readNumber : Cell -> Cell
  | .text s => (Cell.ofNumberText? s).getD (.text s)
  | cell => cell

def isText : Cell -> Bool
  | .text _ => true
  | _ => false

/-- Both operands as they are compared under an affinity. -/
def align (affinity : Option Affinity) (a b : Cell) : Cell × Cell :=
  match affinity with
  | some .integer | some .real | some .numeric => (readNumber a, readNumber b)
  | some .text => if isText a || isText b then (toTextual a, toTextual b) else (a, b)
  | _ => (a, b)

/-- The order of two cells under an affinity; unknown if one of them is null. -/
def compare? (affinity : Option Affinity) (a b : Cell) : Option Ordering :=
  if a.isNull || b.isNull then none
  else
    let aligned := align affinity a b
    some (aligned.1.compare aligned.2)

/-- Whether two cells are the same, null counting as a value of its own. -/
def isSame (affinity : Option Affinity) (a b : Cell) : Bool :=
  match a.isNull, b.isNull with
  | true, true => true
  | false, false => compare? affinity a b == some .eq
  | _, _ => false

end Affinity
end SqlGate
