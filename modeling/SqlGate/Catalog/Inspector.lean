import SqlGate.Catalog.Schema
import SqlGate.Gateway.Gateway

namespace SqlGate

/-!
# Looking at the schema

The schema of a database is read through a catalog, a question at a time, each
on a connection of the pool.  What a catalog of one kind of database answers is
not known here.
-/

/-- The questions that a catalog of a database answers on a connection. -/
structure Catalog (σ : Type) where
  /-- The tables and views of a schema, or of the current one. -/
  tables : Option String -> ConnectionId -> σ -> Except DriverFault (List TableInfo) × σ
  /-- Whether there is a table or view of a name. -/
  tableExists : String -> ConnectionId -> σ -> Except DriverFault Bool × σ
  /-- The columns of a table in order. -/
  columns : String -> ConnectionId -> σ -> Except DriverFault (List ColumnDefinition) × σ
  /-- The columns of the primary key of a table in the order of the key. -/
  primaryKey : String -> ConnectionId -> σ -> Except DriverFault (List String) × σ
  /-- The references of a table to others. -/
  foreignKeys : String -> ConnectionId -> σ -> Except DriverFault (List ForeignKey) × σ

namespace Catalog

variable {σ α : Type}

/-- Ask a question on a connection of the pool. -/
def ask (driver : Driver σ) (m : ManagerId)
    (question : ConnectionId -> σ -> Except DriverFault α × σ) (g : Gateway σ) :
    Outcome α × Gateway σ :=
  g.lend driver m (fun _ fault => fault.toFailure) fun c s =>
    match question c s with
    | (.ok a, s) => (.ok a, s)
    | (.error fault, s) => (.error fault.toFailure, s)

/-- The tables and views of a schema, or of the current one. -/
def listTables (catalog : Catalog σ) (driver : Driver σ) (m : ManagerId) (schema : Option String)
    (g : Gateway σ) : Outcome (List TableInfo) × Gateway σ :=
  ask driver m (catalog.tables schema) g

def hasTable (catalog : Catalog σ) (driver : Driver σ) (m : ManagerId) (table : String)
    (g : Gateway σ) : Outcome Bool × Gateway σ :=
  ask driver m (catalog.tableExists table) g

/-- The columns of a table in order; a table that is not there has none. -/
def getColumns (catalog : Catalog σ) (driver : Driver σ) (m : ManagerId) (table : String)
    (g : Gateway σ) : Outcome (List ColumnDefinition) × Gateway σ :=
  ask driver m (catalog.columns table) g

/-- The columns of the primary key of a table in the order of the key. -/
def getPrimaryKey (catalog : Catalog σ) (driver : Driver σ) (m : ManagerId) (table : String)
    (g : Gateway σ) : Outcome (List String) × Gateway σ :=
  ask driver m (catalog.primaryKey table) g

def getForeignKeys (catalog : Catalog σ) (driver : Driver σ) (m : ManagerId) (table : String)
    (g : Gateway σ) : Outcome (List ForeignKey) × Gateway σ :=
  ask driver m (catalog.foreignKeys table) g

/-- The failure of a description of a table without columns. -/
def noTable (table : String) : Failure :=
  .invalidInput ("Table '" ++ table ++ "' not found")

def describe (catalog : Catalog σ) (driver : Driver σ) (m : ManagerId) (table : String)
    (g : Gateway σ) : Outcome TableSchema × Gateway σ :=
  match catalog.getColumns driver m table g with
  | (.error failure, g) => (.error failure, g)
  | (.ok [], g) => (.error (noTable table), g)
  | (.ok columns, g) =>
      match catalog.getPrimaryKey driver m table g with
      | (.error failure, g) => (.error failure, g)
      | (.ok primaryKey, g) =>
          match catalog.getForeignKeys driver m table g with
          | (.error failure, g) => (.error failure, g)
          | (.ok foreignKeys, g) => (.ok ⟨table, columns, primaryKey, foreignKeys⟩, g)

end Catalog
end SqlGate
