import SqlGate.Embedded.Select

namespace SqlGate
namespace Embedded

/-!
# The catalog of an embedded database

The catalog tells tables and views by their exact names in the order of the
names, and tells the columns and references of a table by its name in any case.
A column of the primary key counts as never null.  The columns of a view are
those of its query, which is not run for them.  The catalog does not tell the
table that it is kept in, but knows its columns.
-/

/-- What the catalog records of a column. -/
structure ColumnRecord where
  name : String
  /-- Its declared type. -/
  declared : String
  /-- Whether it refuses null. -/
  notNull : Bool
  /-- The source of its default. -/
  default : Option String
  /-- Its position in the primary key, counted from one; zero outside the key. -/
  keyPosition : Nat
deriving DecidableEq, Repr

namespace ColumnRecord

/-- The definition that a record stands for. -/
def definition (record : ColumnRecord) : ColumnDefinition :=
  { name := record.name
    dataType := record.declared
    nullable := !record.notNull && record.keyPosition == 0
    defaultValue := record.default
    isPrimaryKey := record.keyPosition != 0 }

def definitions (records : List ColumnRecord) : List ColumnDefinition :=
  records.map definition

/-- The columns of the primary key, by their positions in it. -/
def keyColumns (records : List ColumnRecord) : List String :=
  ((records.filter fun record => record.keyPosition != 0).mergeSort fun a b =>
    a.keyPosition ≤ b.keyPosition).map ColumnRecord.name

end ColumnRecord

/-! ## What a database records -/

/-- The record of the column at a place of a table. -/
def Table.record (table : Table) (entry : Column × Nat) : ColumnRecord :=
  { name := entry.1.name
    declared := entry.1.declared
    notNull := entry.1.notNull
    default := entry.1.default.map Prod.snd
    keyPosition := ((table.primaryKey.findIdx? (· == entry.2)).map (· + 1)).getD 0 }

/-- The record of a column of a view. -/
def ResultColumn.record (column : ResultColumn) : ColumnRecord :=
  { name := column.name, declared := column.declared.getD "", notNull := false, default := none
    keyPosition := 0 }

namespace Database

/-- The names of the table in which the catalog itself is kept. -/
def catalogNames : List String :=
  ["sqlite_master", "sqlite_schema", "sqlite_temp_master", "sqlite_temp_schema"]

/-- Whether a name is one of the catalog itself. -/
def isCatalog (name : String) : Bool :=
  catalogNames.any fun own => sameName own name

/-- The records of the columns of the catalog itself. -/
def catalogRecords : List ColumnRecord :=
  [("type", "TEXT"), ("name", "TEXT"), ("tbl_name", "TEXT"), ("rootpage", "INT"),
      ("sql", "TEXT")].map fun column =>
    { name := column.1, declared := column.2, notNull := false, default := none, keyPosition := 0 }

/-- The records of the columns of a table or view; what is not there has none. -/
def columnRecords (db : Database) (name : String) : Except Fault (List ColumnRecord) :=
  match db.tables.find? fun table => sameName table.name name,
    db.views.find? fun view => sameName view.name name with
  | some table, _ => .ok (table.columns.zipIdx.map table.record)
  | none, some view => do
      return (<- db.heading db.viewDepth [view.name] view.query).map ResultColumn.record
  | none, none => .ok (if isCatalog name then catalogRecords else [])

/-- Whether a name is one that the database keeps for itself. -/
def isOwnName (name : String) : Bool :=
  match (Text.lower name).toList with
  | 's' :: 'q' :: 'l' :: 'i' :: 't' :: 'e' :: _ :: _ => true
  | _ => false

/-- The tables and views with their types, in the order of their names. -/
def listed (db : Database) : List TableInfo :=
  let all : List TableInfo :=
    db.tables.map (fun table => { name := table.name, tableType := .table })
      ++ db.views.map fun view => { name := view.name, tableType := .view }
  (all.filter fun info => !isOwnName info.name).mergeSort fun a b =>
    Ord.compare a.name b.name != .gt

/-- Whether there is a table or view of exactly a name. -/
def hasExactly (db : Database) (name : String) : Bool :=
  db.tables.any (·.name == name) || db.views.any (·.name == name)

/-- The references of a table, the last declared one first. -/
def foreignKeysOf (db : Database) (name : String) : List ForeignKey :=
  match db.tables.find? fun table => sameName table.name name with
  | none => []
  | some table =>
      table.references.reverse.map fun reference =>
        { column := table.columnName reference.place
          referencesTable := reference.table
          referencesColumn := reference.target.getD ""
          onDelete := some reference.onDelete
          onUpdate := some reference.onUpdate }

end Database
end Embedded
end SqlGate
