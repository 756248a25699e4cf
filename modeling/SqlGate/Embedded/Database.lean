import SqlGate.Embedded.Fault
import SqlGate.Embedded.Syntax

namespace SqlGate
namespace Embedded

/-!
# Databases

A database is its tables and views.  Rows are numbered and kept in the order of
their numbers; a column may stand for the number itself.  Names are the same up
to the case of ASCII letters, and each keeps the spelling it was made with.
-/

/-- A column of a table. -/
structure Column where
  name : String
  /-- Its type as it was declared, empty if none was. -/
  declared : String := ""
  /-- Whether null is refused. -/
  notNull : Bool := false
  /-- The expression of its default and the source of it. -/
  default : Option (Expr × String) := none

def Column.affinity (column : Column) : Affinity :=
  Affinity.ofDeclared column.declared

/-- Columns whose values together differ from row to row, by their places. -/
structure Key where
  /-- The places of the columns. -/
  places : List Nat
  /-- Whether it is the primary key. -/
  isPrimary : Bool
deriving DecidableEq, Repr

/-- A reference of a column to a row of a table. -/
structure Reference where
  /-- The place of the referring column. -/
  place : Nat
  /-- The table referred to. -/
  table : String
  /-- The column referred to, if it is named. -/
  target : Option String
  /-- What happens when a row referred to is deleted. -/
  onDelete : ForeignKeyAction
  /-- What happens when a key referred to changes. -/
  onUpdate : ForeignKeyAction
deriving DecidableEq, Repr

/-- A row with its number. -/
structure StoredRow where
  /-- Its number. -/
  id : Int
  /-- Its cells in the order of the columns. -/
  cells : List Cell
deriving DecidableEq

/-- A table. -/
structure Table where
  name : String
  /-- Its columns in order. -/
  columns : List Column
  /-- The place of the column that stands for the number of a row. -/
  rowKey : Option Nat := none
  /-- The places of the columns of the primary key in its order. -/
  primaryKey : List Nat := []
  /-- The keys that are checked, in the order of their declaration. -/
  keys : List Key := []
  /-- The references to other tables in the order of their declaration. -/
  references : List Reference := []
  /-- The rows in the order of their numbers. -/
  rows : List StoredRow := []

/-- A view. -/
structure View where
  name : String
  /-- What it shows. -/
  query : Query

/-- Tables and views. -/
structure Database where
  /-- The tables in the order in which they were made. -/
  tables : List Table := []
  /-- The views in the order in which they were made. -/
  views : List View := []

/-- Whether two names are the same. -/
def sameName (a b : String) : Bool :=
  Text.sameIgnoringCase a b

/-- A name without the name of the database in front of it. -/
def plainName (name : String) : String :=
  if Text.beginsWith "main.".toList (Text.lower name).toList then
    String.ofList (name.toList.drop 5)
  else name

namespace Table

def place? (table : Table) (name : String) : Option Nat :=
  table.columns.findIdx? fun column => sameName column.name name

def columnName (table : Table) (place : Nat) : String :=
  ((table.columns[place]?).map Column.name).getD ""

def affinityAt (table : Table) (place : Nat) : Affinity :=
  ((table.columns[place]?).map Column.affinity).getD .blob

/-- Enter a row at its place in the order of numbers. -/
def insertRow (row : StoredRow) : List StoredRow -> List StoredRow
  | [] => [row]
  | first :: rest =>
      if row.id < first.id then row :: first :: rest else first :: insertRow row rest

/-- The greatest number that a row can have. -/
def greatestId : Int := 9223372036854775807

/-- The number in front of the rows that are numbered without a gap up to the greatest number;
the rows come with the greatest number first. -/
def freeBelow : Int -> List StoredRow -> Int
  | candidate, [] => candidate
  | candidate, row :: rest => if row.id = candidate then freeBelow (candidate - 1) rest else candidate

/-- The number that a new row gets unless it is given one: the one behind the greatest, and a free
one once the greatest is the last. -/
def nextId (table : Table) : Int :=
  match table.rows.getLast? with
  | none => 1
  | some row => if row.id < greatestId then row.id + 1 else freeBelow greatestId table.rows.reverse

end Table

/-- The cell at a place; there is nothing beyond the end. -/
def cellAt (cells : List Cell) (place : Nat) : Cell :=
  cells.getD place .null

namespace Database

def table? (db : Database) (name : String) : Option Table :=
  db.tables.find? fun table => sameName table.name (plainName name)

def view? (db : Database) (name : String) : Option View :=
  db.views.find? fun view => sameName view.name (plainName name)

/-- Put a table in the place of the one with its name. -/
def setTable (db : Database) (changed : Table) : Database :=
  { db with tables := db.tables.map fun table =>
      if sameName table.name changed.name then changed else table }

/-- The table of a name that rows can be written to. -/
def writable (db : Database) (name : String) : Except Fault Table :=
  match db.table? name with
  | some table => .ok table
  | none =>
      match db.view? name with
      | some view => .error (.isView view.name)
      | none => .error (.noSuchTable name)

end Database
end Embedded
end SqlGate
