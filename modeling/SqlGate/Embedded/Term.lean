import SqlGate.Embedded.Arithmetic
import SqlGate.Embedded.Syntax

namespace SqlGate
namespace Embedded

/-!
# Terms and their values

A term is an expression whose names were looked up: columns are places in a
row, and every comparison knows the affinity it is made under.  Its value
depends on a row, on the group that the row stands for, and on the values of
the parameters.
-/

/-- What summarises a group. -/
inductive Aggregate where
  | count
  | sum
  | total
  | average
  | least
  | greatest
deriving DecidableEq, Repr

/-- A function of cells. -/
inductive Scalar where
  | absolute
  | firstPresent
  | greatest
  | least
  | length
  | lower
  | upper
  | typeName
  | version
deriving DecidableEq, Repr

/-- An expression without names of columns; an aggregate keeps the name it was called by, and
whether equal cells count once. -/
inductive Term where
  | cell (value : Cell)
  | parameter (place : Nat)
  | column (place : Nat) (affinity : Option Affinity)
  | unary (op : UnaryOp) (operand : Term)
  | binary (op : BinaryOp) (affinity : Option Affinity) (left right : Term)
  | isIn (affinity : Option Affinity) (operand : Term) (items : List Term)
  | scalar (function : Scalar) (arguments : List Term)
  | aggregate (function : Aggregate) (name : String) (distinct : Bool) (argument : Term)
  | countRows (name : String)

/-- What the value of a term depends on. -/
structure Env where
  row : List Cell := []
  /-- The rows of the group that the row stands for. -/
  group : List (List Cell) := []
  /-- The values of the parameters in order. -/
  parameters : List Cell := []

/-- The affinity of a term: that of its column if it is one. -/
def Term.affinity : Term -> Option Affinity
  | .column _ affinity => affinity
  | _ => none

/-! ## Operators -/

def UnaryOp.apply (op : UnaryOp) (a : Cell) : Cell :=
  match op with
  | .not => Cell.ofTruth (Truth.not a.truth)
  | .negate => a.negate
  | .same => a
  | .isNull => Cell.ofTruth (some a.isNull)
  | .notNull => Cell.ofTruth (some !a.isNull)

/-- The value of a comparison that accepts some orders. -/
def compareBy (accepts : Ordering -> Bool) (affinity : Option Affinity) (a b : Cell) : Cell :=
  Cell.ofTruth ((Affinity.compare? affinity a b).map accepts)

def BinaryOp.apply (op : BinaryOp) (affinity : Option Affinity) (a b : Cell) : Cell :=
  match op with
  | .or => Cell.ofTruth (Truth.or a.truth b.truth)
  | .and => Cell.ofTruth (Truth.and a.truth b.truth)
  | .eq => compareBy (· == .eq) affinity a b
  | .ne => compareBy (· != .eq) affinity a b
  | .lt => compareBy (· == .lt) affinity a b
  | .le => compareBy (· != .gt) affinity a b
  | .gt => compareBy (· == .gt) affinity a b
  | .ge => compareBy (· != .lt) affinity a b
  | .is => Cell.ofTruth (some (Affinity.isSame affinity a b))
  | .isNot => Cell.ofTruth (some !(Affinity.isSame affinity a b))
  | .like => Cell.ofTruth (a.like b)
  | .add => a.add b
  | .sub => a.sub b
  | .mul => a.mul b
  | .div => a.div b
  | .rem => a.rem b
  | .concat => a.concat b

/-- Whether a cell is among others: unknown if it is not found but one of them is null. -/
def membership (affinity : Option Affinity) (a : Cell) (items : List Cell) : Truth :=
  items.foldr
    (fun item found => Truth.or ((Affinity.compare? affinity a item).map (· == .eq)) found)
    (some false)

/-! ## Functions -/

def className : Cell -> String
  | .null => "null"
  | .int _ => "integer"
  | .real _ => "real"
  | .text _ => "text"
  | .blob _ => "blob"

def mapText (f : String -> Cell) (a : Cell) : Cell :=
  match a.toText? with
  | some s => f s
  | none => .null

/-- The number of characters in front of a NUL, or of bytes of a blob. -/
def lengthOf : Cell -> Cell
  | .blob bytes => Cell.ofInt (Int.ofNat bytes.length)
  | cell => mapText
      (fun s => Cell.ofInt (Int.ofNat (s.toList.takeWhile fun c => c != '\x00').length)) cell

/-- The absolute value: an integer of an integer, else a double; a zero keeps its sign. -/
def absoluteOf (a : Cell) : Cell :=
  match a with
  | .null => .null
  | .int n => Cell.ofInt (Int.ofNat n.toInt.natAbs)
  | cell =>
      let x := cell.toNumber.toReal
      .real (if x.isNegative && x.place != 0 then x.neg else x)

def leastBy (isBefore : Cell -> Cell -> Bool) : List Cell -> Cell
  | [] => .null
  | a :: rest => rest.foldl (fun best b => if isBefore b best then b else best) a

/-- The least cell in an order, but nothing where one of them is nothing. -/
def leastOf (isBefore : Cell -> Cell -> Bool) (cells : List Cell) : Cell :=
  if cells.any Cell.isNull then .null else leastBy isBefore cells

/-- The version that the embedded database reports. -/
def versionText : String := "3.46.0"

def Scalar.apply (function : Scalar) (arguments : List Cell) : Cell :=
  let first := arguments.headD .null
  match function with
  | .absolute => absoluteOf first
  | .firstPresent => (arguments.find? fun a => !a.isNull).getD .null
  | .greatest => leastOf (fun a b => a.compare b == .gt) arguments
  | .least => leastOf (fun a b => a.compare b == .lt) arguments
  | .length => lengthOf first
  | .lower => mapText (fun s => .text (Text.lower s)) first
  | .upper => mapText (fun s => .text (Text.upper s)) first
  | .typeName => .text (className first)
  | .version => .text versionText

/-- The number that a cell adds to a sum: an integer where it is one, else a double. -/
def summand (a : Cell) : Cell :=
  match a with
  | .text s => (Cell.ofNumberText? s).getD (.real (Cell.ofNumberPrefix s).toReal)
  | .blob _ => .real a.toNumber.toReal
  | cell => cell

/-- The exact sum of integers, `none` if there is another number among them. -/
def wholeSum? : List Cell -> Option Int
  | [] => some 0
  | .int n :: rest => (wholeSum? rest).map (n.toInt + ·)
  | _ :: _ => none

/-- The value of a finite number in units. -/
def unitsOf : Cell -> Int
  | .int n => n.toInt * Int.ofNat Binary64.unitsPerOne
  | cell => cell.toReal.signedUnits

/-- The sum of numbers as a double, rounded once where all are finite. -/
def realSum (numbers : List Cell) : Binary64 :=
  if numbers.all fun a => a.toReal.isFinite then
    Binary64.ofSignedUnits ((numbers.map unitsOf).foldl (· + ·) 0)
  else (numbers.map Cell.toReal).foldl Binary64.add Binary64.zero

/-- Whether a sum of numbers leaves the integers: it gets too great before a number that is no
integer turns it into a double. -/
def sumOverflows : Int -> List Cell -> Bool
  | _, [] => false
  | total, .int n :: rest =>
      if Cell.fits (total + n.toInt) then sumOverflows (total + n.toInt) rest
      else rest.all fun a => match a with
        | .int _ => true
        | _ => false
  | _, _ :: _ => false

def distinctCells (cells : List Cell) : List Cell :=
  cells.foldl
    (fun kept a => if kept.any fun b => b.compare a == .eq then kept else kept ++ [a]) []

/-- The value of a summary of the cells of a group; null counts for nothing. -/
def Aggregate.apply (function : Aggregate) (cells : List Cell) : Cell :=
  let present := cells.filter fun a => !a.isNull
  let numbers := present.map summand
  match function with
  | .count => Cell.ofInt (Int.ofNat present.length)
  | .sum =>
      if present.isEmpty then .null
      else
        match wholeSum? numbers with
        | some n => Cell.ofInt n
        | none => Cell.ofReal (realSum numbers)
  | .total => Cell.ofReal (realSum numbers)
  | .average =>
      if present.isEmpty then .null
      else Cell.ofReal ((realSum numbers).div (Binary64.ofNat present.length))
  | .least => leastBy (fun a b => a.compare b == .lt) present
  | .greatest => leastBy (fun a b => a.compare b == .gt) present

/-- Whether a summary of the cells of a group would have to be an integer but is too great. -/
def Aggregate.overflows (function : Aggregate) (cells : List Cell) : Bool :=
  function == .sum && sumOverflows 0 ((cells.filter fun a => !a.isNull).map summand)

/-! ## Values -/

mutual

def Term.value (env : Env) : Term -> Cell
  | .cell value => value
  | .parameter place => (env.parameters[place - 1]?).getD .null
  | .column place _ => env.row.getD place .null
  | .unary op operand => op.apply (operand.value env)
  | .binary op affinity left right => op.apply affinity (left.value env) (right.value env)
  | .isIn affinity operand items =>
      Cell.ofTruth (membership affinity (operand.value env) (Term.values env items))
  | .scalar function arguments => function.apply (Term.values env arguments)
  | .aggregate function _ distinct argument =>
      let cells := env.group.map fun row => argument.value { env with row := row }
      function.apply (if distinct then distinctCells cells else cells)
  | .countRows _ => Cell.ofInt (Int.ofNat env.group.length)

def Term.values (env : Env) : List Term -> List Cell
  | [] => []
  | t :: rest => t.value env :: Term.values env rest

end

mutual

/-- Whether a number in the value of a term is too great for an integer that has to be one. -/
def Term.overflows (env : Env) : Term -> Bool
  | .unary _ operand => operand.overflows env
  | .binary _ _ left right => left.overflows env || right.overflows env
  | .isIn _ operand items => operand.overflows env || Term.anyOverflows env items
  | .scalar function arguments =>
      Term.anyOverflows env arguments ||
        (function == .absolute &&
          (Term.values env arguments).headD .null == .int Int64.minValue)
  | .aggregate function _ distinct argument =>
      let cells := env.group.map fun row => argument.value { env with row := row }
      (env.group.any fun row => argument.overflows { env with row := row }) ||
        function.overflows (if distinct then distinctCells cells else cells)
  | _ => false

/-- Whether a number in the values of terms is too great. -/
def Term.anyOverflows (env : Env) : List Term -> Bool
  | [] => false
  | t :: rest => t.overflows env || Term.anyOverflows env rest

end

/-- Whether a condition is true; no condition is. -/
def holdsIn (env : Env) (condition : Option Term) : Bool :=
  match condition with
  | some t => Truth.holds (t.value env).truth
  | none => true

/-! ## Aggregates in terms -/

mutual

/-- The name of an aggregate in a term, if there is one. -/
def Term.aggregate? : Term -> Option String
  | .unary _ operand => operand.aggregate?
  | .binary _ _ left right => left.aggregate?.or right.aggregate?
  | .isIn _ operand items => operand.aggregate?.or (Term.aggregateAmong items)
  | .scalar _ arguments => Term.aggregateAmong arguments
  | .aggregate _ name _ _ => some name
  | .countRows name => some name
  | _ => none

/-- The name of an aggregate in terms, if there is one. -/
def Term.aggregateAmong : List Term -> Option String
  | [] => none
  | t :: rest => t.aggregate?.or (Term.aggregateAmong rest)

end

mutual

/-- The searches for a least or greatest cell in a term, from left to right. -/
def Term.searches : Term -> List (Aggregate × Term)
  | .unary _ operand => operand.searches
  | .binary _ _ left right => left.searches ++ right.searches
  | .isIn _ operand items => operand.searches ++ Term.searchesAmong items
  | .scalar _ arguments => Term.searchesAmong arguments
  | .aggregate function _ _ argument =>
      if function == .least || function == .greatest then [(function, argument)] else []
  | _ => []

/-- The searches for a least or greatest cell in terms, from left to right. -/
def Term.searchesAmong : List Term -> List (Aggregate × Term)
  | [] => []
  | t :: rest => t.searches ++ Term.searchesAmong rest

end

/-- The row that stands for a group: the one that the last search finds, or else the first.  A
search among nothing but null ends at the last row. -/
def representative (env : Env) (searches : List (Aggregate × Term)) (group : List (List Cell)) :
    List Cell :=
  match searches.getLast? with
  | none => group.headD []
  | some (function, argument) =>
      let found := function.apply (group.map fun row => argument.value { env with row := row })
      let at? := group.find? fun row =>
        !found.isNull && (argument.value { env with row := row }).compare found == .eq
      at?.getD ((group.getLast?).getD [])

end Embedded
end SqlGate
