import SqlGate.Embedded.Fault
import SqlGate.Embedded.Term

namespace SqlGate
namespace Embedded

/-!
# Looking names up

A name is looked up among the columns of the tables that are read, then among
the names for the number of a row, then among the columns of the result.  What
is found in none of them is a text if it stands between double quotes, a truth
value if it is one by its word, and otherwise a fault.
-/

/-- A column that a name can mean. -/
structure SourceColumn where
  /-- The name that its table is known by. -/
  table : String
  name : String
  /-- Its declared type, if it has one. -/
  declared : Option String := none
  /-- Its affinity, if it has one. -/
  affinity : Option Affinity := none
  /-- Whether it is the number of the row, which is not among all columns. -/
  isRowId : Bool := false

/-- What names can mean. -/
structure Scope where
  /-- The columns of all tables in order. -/
  columns : List SourceColumn := []
  /-- The columns of the result by their names. -/
  results : List (String × Term) := []
  allowsAggregates : Bool := false

def rowIdNames : List String := ["rowid", "oid", "_rowid_"]

namespace Scope

/-- The columns that satisfy a condition, with their places. -/
def placesOf (scope : Scope) (p : SourceColumn -> Bool) : List (SourceColumn × Nat) :=
  (scope.columns.zipIdx).filter fun entry => p entry.1

/-- Whether a column belongs to the table that a name asks for. -/
def inTable (wanted : Option String) (column : SourceColumn) : Bool :=
  match wanted with
  | some table => Text.sameIgnoringCase table column.table
  | none => true

/-- The columns that a name means. -/
def matching (scope : Scope) (name : ColumnName) : List (SourceColumn × Nat) :=
  let found := scope.placesOf fun column =>
    !column.isRowId && inTable name.table column && Text.sameIgnoringCase column.name name.column
  if found.isEmpty && rowIdNames.contains (Text.lower name.column) then
    scope.placesOf fun column => column.isRowId && inTable name.table column
  else found

/-- The result column that a name without a table means. -/
def resultOf? (scope : Scope) (name : ColumnName) : Option Term :=
  if name.table.isSome then none
  else (scope.results.find? fun entry => Text.sameIgnoringCase entry.1 name.column).map Prod.snd

/-- A name as faults tell it. -/
def shownName (name : ColumnName) : String :=
  match name.table with
  | some table => table ++ "." ++ name.column
  | none => name.column

/-- What a name means that is no column. -/
def literalOf? (name : ColumnName) : Option Term :=
  if name.table.isSome then none
  else if name.mayBeText then some (.cell (.text name.column))
  else if Text.sameIgnoringCase name.column "true" then some (.cell (.int 1))
  else if Text.sameIgnoringCase name.column "false" then some (.cell (.int 0))
  else none

/-- The term that a name means. -/
def lookup (scope : Scope) (name : ColumnName) : Except Fault Term :=
  match scope.matching name with
  | [(column, place)] => .ok (.column place column.affinity)
  | _ :: _ :: _ => .error (.ambiguousColumn (shownName name))
  | [] =>
      match (scope.resultOf? name).or (literalOf? name) with
      | some t => .ok t
      | none => .error (.noSuchColumn (shownName name))

end Scope

/-! ## Functions -/

def aggregateOf? (name : String) : Option Aggregate :=
  match Text.lower name with
  | "count" => some .count
  | "sum" => some .sum
  | "total" => some .total
  | "avg" => some .average
  | "min" => some .least
  | "max" => some .greatest
  | _ => none

/-- The function of a name, and whether it takes a number of arguments. -/
def scalarOf? (name : String) : Option (Scalar × (Nat -> Bool)) :=
  match Text.lower name with
  | "abs" => some (.absolute, (· == 1))
  | "coalesce" => some (.firstPresent, fun n => 2 ≤ n)
  | "ifnull" => some (.firstPresent, (· == 2))
  | "length" => some (.length, (· == 1))
  | "lower" => some (.lower, (· == 1))
  | "max" => some (.greatest, fun n => 2 ≤ n)
  | "min" => some (.least, fun n => 2 ≤ n)
  | "upper" => some (.upper, (· == 1))
  | "typeof" => some (.typeName, (· == 1))
  | "sqlite_version" => some (.version, (· == 0))
  | _ => none

/-- What a name calls with a number of arguments. -/
inductive Callee where
  | aggregate (function : Aggregate)
  | rows
  | scalar (function : Scalar)

/-- The function that a name calls: an aggregate of a row each, or of all rows, or a function of
as many cells. -/
def callee (scope : Scope) (name : String) (distinct : Bool) (count : Nat) :
    Except Fault Callee := do
  let aggregate : Callee -> Except Fault Callee := fun found =>
    if scope.allowsAggregates then .ok found else .error (.aggregateMisuse name)
  match aggregateOf? name, scalarOf? name with
  | some function, scalar =>
      if count = 1 then aggregate (.aggregate function)
      else if count = 0 && function == .count then
        if distinct then .error .distinctWithoutArgument else aggregate .rows
      else
        match scalar with
        | some (function, accepts) =>
            if accepts count then .ok (.scalar function) else .error (.wrongArgumentCount name)
        | none => .error (.wrongArgumentCount name)
  | none, some (function, accepts) =>
      if accepts count then .ok (.scalar function) else .error (.wrongArgumentCount name)
  | none, none => .error (.noSuchFunction name)

/-- A comparison of terms under their common affinity. -/
def comparison (op : BinaryOp) (a b : Term) : Term :=
  .binary op (Affinity.common a.affinity b.affinity) a b

mutual

def Expr.resolve (scope : Scope) : Expr -> Except Fault Term
  | .cell value => .ok (.cell value)
  | .parameter place => .ok (.parameter place)
  | .column name => scope.lookup name
  | .unary op operand => do return .unary op (<- operand.resolve scope)
  | .binary op left right => do
      let a <- left.resolve scope
      let b <- right.resolve scope
      return comparison op a b
  | .isIn operand items => do
      let a <- operand.resolve scope
      return .isIn a.affinity a (<- Expr.resolveAll scope items)
  | .between operand low high => do
      let a <- operand.resolve scope
      let least <- low.resolve scope
      let greatest <- high.resolve scope
      return .binary .and none (comparison .ge a least) (comparison .le a greatest)
  | .call name distinct arguments => do
      match <- callee scope name distinct arguments.length with
      | .aggregate function =>
          let inner <- Expr.resolveAll { scope with allowsAggregates := false } arguments
          return .aggregate function name distinct (inner.headD (.cell .null))
      | .rows => return .countRows name
      | .scalar function => return .scalar function (<- Expr.resolveAll scope arguments)
  | .countAll name => do
      match <- callee scope name false 0 with
      | .rows => return .countRows name
      | _ => .error (.wrongArgumentCount name)

def Expr.resolveAll (scope : Scope) : List Expr -> Except Fault (List Term)
  | [] => .ok []
  | e :: rest => do
      let t <- e.resolve scope
      return t :: (<- Expr.resolveAll scope rest)

end

/-- The term of an expression that may be absent. -/
def resolve? (scope : Scope) : Option Expr -> Except Fault (Option Term)
  | none => .ok none
  | some e => do return some (<- e.resolve scope)

end Embedded
end SqlGate
