import SqlGate.Catalog.Inspector
import SqlGate.Wire.Server

namespace SqlGate
namespace Wire

/-!
# The catalog of a server

A server keeps its catalog in tables of its own, so each question is a
statement.  The name that is asked for is always bound, even where there is
none, and without a schema the current one is meant.
-/

/-! ## Questions -/

def tablesSql : String :=
  " ".intercalate
    ["SELECT table_schema, table_name, table_type",
      "FROM information_schema.tables",
      "WHERE table_schema = COALESCE($1, current_schema())",
      "AND table_type IN ('BASE TABLE', 'VIEW')",
      "ORDER BY table_name"]

def tableExistsSql : String :=
  " ".intercalate
    ["SELECT EXISTS (",
      "SELECT 1 FROM information_schema.tables",
      "WHERE table_name = $1 AND table_schema = current_schema()",
      ") AS present"]

def columnsSql : String :=
  " ".intercalate
    ["SELECT",
      "c.column_name,",
      "format_type(a.atttypid, a.atttypmod) AS column_type,",
      "c.is_nullable,",
      "c.column_default,",
      "EXISTS (",
      "SELECT 1",
      "FROM information_schema.table_constraints tc",
      "JOIN information_schema.key_column_usage kcu",
      "ON tc.constraint_name = kcu.constraint_name",
      "AND tc.table_schema = kcu.table_schema",
      "WHERE tc.table_name = c.table_name",
      "AND tc.table_schema = c.table_schema",
      "AND tc.constraint_type = 'PRIMARY KEY'",
      "AND kcu.column_name = c.column_name",
      ") AS is_primary_key",
      "FROM information_schema.columns c",
      "JOIN pg_class t ON t.relname = c.table_name",
      "JOIN pg_namespace n ON n.oid = t.relnamespace AND n.nspname = c.table_schema",
      "JOIN pg_attribute a ON a.attrelid = t.oid AND a.attname = c.column_name",
      "WHERE c.table_name = $1 AND c.table_schema = current_schema()",
      "ORDER BY c.ordinal_position"]

def primaryKeySql : String :=
  " ".intercalate
    ["SELECT kcu.column_name",
      "FROM information_schema.table_constraints tc",
      "JOIN information_schema.key_column_usage kcu",
      "ON tc.constraint_name = kcu.constraint_name",
      "AND tc.table_schema = kcu.table_schema",
      "WHERE tc.table_name = $1",
      "AND tc.table_schema = current_schema()",
      "AND tc.constraint_type = 'PRIMARY KEY'",
      "ORDER BY kcu.ordinal_position"]

def foreignKeysSql : String :=
  " ".intercalate
    ["SELECT",
      "kcu.column_name,",
      "ccu.table_name AS foreign_table_name,",
      "ccu.column_name AS foreign_column_name,",
      "rc.delete_rule,",
      "rc.update_rule",
      "FROM information_schema.table_constraints tc",
      "JOIN information_schema.key_column_usage kcu",
      "ON tc.constraint_name = kcu.constraint_name",
      "AND tc.table_schema = kcu.table_schema",
      "JOIN information_schema.constraint_column_usage ccu",
      "ON ccu.constraint_name = tc.constraint_name",
      "AND ccu.table_schema = tc.table_schema",
      "JOIN information_schema.referential_constraints rc",
      "ON rc.constraint_name = tc.constraint_name",
      "AND rc.constraint_schema = tc.table_schema",
      "WHERE tc.table_name = $1",
      "AND tc.table_schema = current_schema()",
      "AND tc.constraint_type = 'FOREIGN KEY'",
      "ORDER BY kcu.ordinal_position"]

/-! ## Answers -/

/-- A row of an answer with its columns. -/
structure RawRow where
  columns : List Column
  cells : List Cell
  /-- How the cells are sent. -/
  form : Form

namespace RawRow

/-- The name of a column as a fault tells it. -/
def columnIndex (name : String) : String :=
  "\"" ++ name ++ "\""

/-- The fault of a null where there must be none. -/
def unexpectedNull (name : String) : DriverFault :=
  .columnDecode (columnIndex name) "unexpected null; try decoding as an `Option`"

/-- The fault of a column of another type than the one that is read. -/
def mismatch (name target wanted found : String) : DriverFault :=
  .columnDecode (columnIndex name)
    ("mismatched types; Rust type `" ++ target ++ "` (as SQL type `" ++ wanted
      ++ "`) is not compatible with SQL type `" ++ found ++ "`")

/-- The column of a name with its cell; of several, the last. -/
def find (row : RawRow) (name : String) : Except DriverFault (Column × Cell) :=
  match (row.columns.zip row.cells).reverse.find? fun entry => entry.1.name == name with
  | some entry => .ok entry
  | none => .error (.columnNotFound name)

def text (row : RawRow) (name : String) : Except DriverFault String := do
  let (column, cell) <- row.find name
  match cell with
  | none => .error (unexpectedNull name)
  | some bytes =>
      if ColumnType.ofNumber column.type = .text then
        match Bytes.toText? bytes with
        | some s => .ok s
        | none => .error (.columnDecode (columnIndex name) "invalid utf-8")
      else .error (mismatch name "String" "TEXT" (typeName column.type))

def truth (row : RawRow) (name : String) : Except DriverFault Bool := do
  let (column, cell) <- row.find name
  match cell with
  | none => .error (unexpectedNull name)
  | some bytes =>
      if ColumnType.ofNumber column.type = .bool then
        match truth? row.form bytes with
        | some b => .ok b
        | none => .error (.columnDecode (columnIndex name) "unexpected boolean")
      else .error (mismatch name "bool" "BOOL" (typeName column.type))

def tableInfo (row : RawRow) : Except DriverFault TableInfo := do
  let schema <- row.text "table_schema"
  let name <- row.text "table_name"
  let word <- row.text "table_type"
  return ⟨name, some schema, TableType.ofCatalog word⟩

/-- A column of a table; a default that is no text is none. -/
def columnDefinition (row : RawRow) : Except DriverFault ColumnDefinition := do
  let name <- row.text "column_name"
  let type <- row.text "column_type"
  let nullable <- row.text "is_nullable"
  let isPrimaryKey <- row.truth "is_primary_key"
  return ⟨name, type, nullable == "YES", (row.text "column_default").toOption, isPrimaryKey⟩

def foreignKey (row : RawRow) : Except DriverFault ForeignKey := do
  let onDelete <- row.text "delete_rule"
  let onUpdate <- row.text "update_rule"
  let column <- row.text "column_name"
  let table <- row.text "foreign_table_name"
  let target <- row.text "foreign_column_name"
  return ⟨column, table, target, ForeignKeyAction.parse? onDelete,
    ForeignKeyAction.parse? onUpdate⟩

end RawRow

/-- The rows of an answer. -/
def RawResult.rawRows (result : RawResult) : List RawRow :=
  result.rows.map fun cells => ⟨result.columns, cells, result.form⟩

namespace Server

/-- Ask a question about a name and read the rows of the answer. -/
def ask {α : Type} (sql : String) (name : Option String)
    (read : List RawRow -> Except DriverFault α) (c : ConnectionId) (server : Server) :
    Except DriverFault α × Server :=
  let done := runExtended c sql [Bound.ofText? name] server
  (done.1.bind fun result => read result.rawRows, done.2)

/-- Read each row of an answer. -/
def eachRow {α : Type} (read : RawRow -> Except DriverFault α) (rows : List RawRow) :
    Except DriverFault (List α) :=
  rows.mapM read

/-- Read the first row of an answer that has one. -/
def firstRow {α : Type} (read : RawRow -> Except DriverFault α) :
    List RawRow -> Except DriverFault α
  | row :: _ => read row
  | [] => .error .noRow

def catalog : Catalog Server where
  tables := fun schema => ask tablesSql schema (eachRow RawRow.tableInfo)
  tableExists := fun table =>
    ask tableExistsSql (some table) (firstRow fun row => row.truth "present")
  columns := fun table => ask columnsSql (some table) (eachRow RawRow.columnDefinition)
  primaryKey := fun table =>
    ask primaryKeySql (some table) (eachRow fun row => row.text "column_name")
  foreignKeys := fun table => ask foreignKeysSql (some table) (eachRow RawRow.foreignKey)

end Server
end Wire
end SqlGate
