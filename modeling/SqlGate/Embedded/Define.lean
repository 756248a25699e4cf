import SqlGate.Embedded.Write

namespace SqlGate
namespace Embedded

/-!
# Making and dropping tables

The clauses of a statement become the columns, keys and references of a table.
A single key column of the type `INTEGER` stands for the number of a row; every
other key is checked against the rows.
-/

/-- The types that are written in capitals whatever their spelling. -/
def standardTypes : List String := ["ANY", "BLOB", "INT", "INTEGER", "REAL", "TEXT"]

def keptType (declared : String) : String :=
  if standardTypes.contains (Text.upper declared) then Text.upper declared else declared

def ColumnClause.column (clause : ColumnClause) : Column :=
  { name := clause.name, declared := keptType clause.declared, notNull := clause.notNull
    default := clause.default }

/-- Refuse a name that is used for another column. -/
def refuseRepeats : List ColumnClause -> Except Fault Unit
  | [] => .ok ()
  | clause :: rest =>
      if rest.any fun other => sameName other.name clause.name then
        .error (.duplicateColumn clause.name)
      else refuseRepeats rest

/-- A primary key that is declared: its columns, and whether it is descending. -/
structure DeclaredKey where
  /-- The places of its columns. -/
  places : List Nat
  descending : Bool := false

def placesAmong (columns : List ColumnClause) (names : List String) : Except Fault (List Nat) :=
  names.mapM fun name =>
    match columns.findIdx? fun column => sameName column.name name with
    | some place => .ok place
    | none => .error (.noSuchColumn name)

/-- The primary keys that are declared, of columns and of the table. -/
def declaredKeys (columns : List ColumnClause) (clauses : List TableClause) :
    Except Fault (List DeclaredKey) := do
  let own := columns.zipIdx.filterMap fun entry =>
    entry.1.primaryKey.map fun descending => ⟨[entry.2], descending⟩
  let common <- clauses.mapM fun clause =>
    match clause with
    | .primaryKey names => do return [({ places := (<- placesAmong columns names) } : DeclaredKey)]
    | .unique _ => .ok []
  return own ++ common.flatten

/-- Enter a key behind others; a key of the same columns is entered once and stays primary. -/
def enterKey (keys : List Key) (key : Key) : List Key :=
  if keys.any fun other => other.places == key.places then
    keys.map fun other =>
      if other.places == key.places then ⟨other.places, other.isPrimary || key.isPrimary⟩ else other
  else keys ++ [key]

def ColumnClause.keys (clause : ColumnClause) (place : Nat) : List Key :=
  (if clause.primaryKey.isSome then [⟨[place], true⟩] else [])
    ++ (if clause.unique then [⟨[place], false⟩] else [])

def TableClause.key (columns : List ColumnClause) : TableClause -> Except Fault Key
  | .primaryKey names => do return ⟨(<- placesAmong columns names), true⟩
  | .unique names => do return ⟨(<- placesAmong columns names), false⟩

/-- The keys of the columns and of the table in the order in which they are written. -/
def writtenKeys (columns : List ColumnClause) (clauses : List TableClause) :
    Except Fault (List Key) := do
  let own := columns.zipIdx.flatMap fun entry => entry.1.keys entry.2
  return own ++ (<- clauses.mapM (TableClause.key columns))

/-- The place of the column that stands for the number of a row, if a key makes it that. -/
def rowKeyOf (columns : List ColumnClause) (key : DeclaredKey) : Option Nat :=
  match key.places with
  | [place] =>
      if !key.descending && (columns[place]?).any fun column =>
          Text.sameIgnoringCase column.declared "INTEGER" then some place
      else none
  | _ => none

def referencesOf (columns : List ColumnClause) : List Reference :=
  columns.zipIdx.flatMap fun entry =>
    entry.1.references.map fun clause =>
      ⟨entry.2, clause.table, clause.column, clause.onDelete, clause.onUpdate⟩

def tableOf (name : String) (columns : List ColumnClause) (clauses : List TableClause) :
    Except Fault Table := do
  refuseRepeats columns
  let declared <- declaredKeys columns clauses
  if 1 < declared.length then throw (.manyPrimaryKeys name)
  let written <- writtenKeys columns clauses
  let rowKey := declared.head?.bind (rowKeyOf columns)
  let primaryKey := ((declared.head?).map DeclaredKey.places).getD []
  let checked := written.filter fun key => !(key.isPrimary && rowKey.isSome)
  return {
    name := name, columns := columns.map ColumnClause.column, rowKey := rowKey,
    primaryKey := primaryKey, keys := checked.foldl enterKey [],
    references := referencesOf columns }

namespace Database

/-- Refuse a name that cannot be given, or tell that it need not be given again. -/
def checkNew (db : Database) (lenient : Bool) (name : String) : Except Fault Bool :=
  if Text.beginsWith "sqlite_".toList (Text.lower name).toList then
    .error (.reservedName name)
  else
    match db.table? name, db.view? name with
    | some _, _ => if lenient then .ok false else .error (.alreadyExists "table" name)
    | none, some _ => if lenient then .ok false else .error (.alreadyExists "view" name)
    | none, none => .ok true

def createTable (db : Database) (lenient : Bool) (name : String) (columns : List ColumnClause)
    (clauses : List TableClause) : Except Fault Effect := do
  let plain := plainName name
  if <- db.checkNew lenient plain then
    let table <- tableOf plain columns clauses
    return { database := { db with tables := db.tables ++ [table] } }
  else return { database := db }

/-- A query whose tables are those of this database. -/
def fixed (q : Query) : Query :=
  { q with sources := q.sources.map fun table =>
      { table with
        name := "main." ++ plainName table.name
        alias? := some (table.alias?.getD (plainName table.name)) } }

def createView (db : Database) (lenient : Bool) (name : String) (q : Query) :
    Except Fault Effect := do
  let plain := plainName name
  if <- db.checkNew lenient plain then
    return { database := { db with views := db.views ++ [⟨plain, fixed q⟩] } }
  else return { database := db }

/-- Remove the rows of a table that can be referred to, with all that follows from it. -/
def emptied (db : Database) (table : Table) : Except Fault (Database × Option Nat) := do
  if (db.referencesTo table).isEmpty then return (db, none)
  let (next, count) <- db.changeAll (table.rows.map fun row => .remove table.name row.id)
  db.checkReferences next
  return (next, some count)

/-- Drop a table.  Its rows are removed one by one if it can be referred to. -/
def dropTable (db : Database) (lenient : Bool) (name : String) : Except Fault Effect := do
  match db.table? name, db.view? name with
  | some table, _ =>
      let (next, written) <- db.emptied table
      let rest := next.tables.filter fun other => !sameName other.name table.name
      return { database := { next with tables := rest }, written := written }
  | none, some view => throw (.useDropView view.name)
  | none, none => if lenient then return { database := db } else throw (.noSuchTable name)

def dropView (db : Database) (lenient : Bool) (name : String) : Except Fault Effect := do
  match db.view? name, db.table? name with
  | some view, _ =>
      return {
        database := { db with
          views := db.views.filter fun other => !sameName other.name view.name } }
  | none, some table => throw (.useDropTable table.name)
  | none, none => if lenient then return { database := db } else throw (.noSuchView name)

end Database
end Embedded
end SqlGate
