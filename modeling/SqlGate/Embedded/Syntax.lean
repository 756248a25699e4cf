import SqlGate.Catalog.Schema
import SqlGate.Embedded.Cell

namespace SqlGate
namespace Embedded

/-!
# Statements of the embedded database

The statements as they were written, before any name in them is looked up.
-/

/-- Operators with two operands. -/
inductive BinaryOp where
  | or
  | and
  | eq
  | ne
  | lt
  | le
  | gt
  | ge
  | is
  | isNot
  | like
  | add
  | sub
  | mul
  | div
  | rem
  | concat
deriving DecidableEq, Repr

/-- Operators with one operand. -/
inductive UnaryOp where
  | not
  | negate
  | same
  | isNull
  | notNull
deriving DecidableEq, Repr

/-- A column as it is named. -/
structure ColumnName where
  /-- The table or its alias, if one is given. -/
  table : Option String := none
  column : String
  /-- Whether the column stands between double quotes and may be a text. -/
  mayBeText : Bool := false
deriving DecidableEq, Repr

/-- An expression. -/
inductive Expr where
  | cell (value : Cell)
  | parameter (place : Nat)
  | column (name : ColumnName)
  | unary (op : UnaryOp) (operand : Expr)
  | binary (op : BinaryOp) (left right : Expr)
  | isIn (operand : Expr) (items : List Expr)
  | between (operand low high : Expr)
  | call (function : String) (distinct : Bool) (arguments : List Expr)
  | countAll (function : String)
deriving Inhabited

/-- A column of a result as it is asked for. -/
inductive ResultItem where
  /-- All columns. -/
  | all
  /-- All columns of one table. -/
  | allOf (table : String)
  /-- An expression with its alias or else its source. -/
  | expr (value : Expr) (alias? : Option String) (source : String)

/-- How a table is joined to those in front of it. -/
inductive JoinType where
  | inner
  | left
  | right
  | full
deriving DecidableEq, Repr

/-- A table that is read. -/
structure SourceTable where
  /-- How it is joined; of no meaning for the first table. -/
  join : JoinType := .inner
  name : String
  /-- The name it is known by in the statement. -/
  alias? : Option String := none
  /-- The condition of the join. -/
  on : Option Expr := none

/-- An order of rows. -/
structure OrderTerm where
  /-- What they are ordered by. -/
  value : Expr
  /-- Whether the greatest comes first. -/
  descending : Bool

/-- A query. -/
structure Query where
  /-- Whether equal rows are given once. -/
  distinct : Bool := false
  /-- The columns of the result. -/
  items : List ResultItem
  /-- The tables it reads. -/
  sources : List SourceTable := []
  /-- The condition on rows. -/
  condition : Option Expr := none
  /-- What rows are grouped by. -/
  groupBy : List Expr := []
  /-- The condition on groups. -/
  having : Option Expr := none
  /-- The order of the result. -/
  orderBy : List OrderTerm := []
  /-- The greatest number of rows. -/
  limit : Option Expr := none
  /-- The number of rows passed over. -/
  offset : Option Expr := none

/-- A reference of a column to another table, as it is declared. -/
structure ReferenceClause where
  /-- The table referred to. -/
  table : String
  /-- The column referred to, if it is named. -/
  column : Option String := none
  /-- What happens when a row referred to is deleted. -/
  onDelete : ForeignKeyAction := .noAction
  /-- What happens when a key referred to changes. -/
  onUpdate : ForeignKeyAction := .noAction

/-- A declared column. -/
structure ColumnClause where
  name : String
  /-- Its type as it is written, empty if none is. -/
  declared : String := ""
  /-- Whether it is the key, and whether of descending order. -/
  primaryKey : Option Bool := none
  /-- Whether null is refused. -/
  notNull : Bool := false
  /-- Whether its values differ from row to row. -/
  unique : Bool := false
  /-- The expression of its default and the source of it. -/
  default : Option (Expr × String) := none
  /-- Its references to other tables. -/
  references : List ReferenceClause := []

/-- A clause of a table that is about several columns. -/
inductive TableClause where
  | primaryKey (columns : List String)
  | unique (columns : List String)

/-- A statement. -/
inductive Statement where
  | select (query : Query)
  | insert (table : String) (columns : Option (List String)) (rows : List (List Expr))
  | insertDefaults (table : String)
  | update (table : String) (assignments : List (String × Expr)) (condition : Option Expr)
  | delete (table : String) (condition : Option Expr)
  | createTable (ifNotExists : Bool) (name : String) (columns : List ColumnClause)
      (clauses : List TableClause)
  | createView (ifNotExists : Bool) (name : String) (query : Query)
  | dropTable (ifExists : Bool) (name : String)
  | dropView (ifExists : Bool) (name : String)
  | begin
  | commit
  | rollback
  | savepoint (name : String)
  | release (name : String)
  | rollbackTo (name : String)

/-- Whether a statement writes rows; one that drops a table may remove rows that are referred to. -/
def Statement.writesRows : Statement -> Bool
  | .insert _ _ _ | .insertDefaults _ | .update _ _ _ | .delete _ _ | .dropTable _ _ => true
  | _ => false

end Embedded
end SqlGate
