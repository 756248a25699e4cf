import SqlGate.Json.Printer
import SqlGate.Json.Record
import SqlGate.Text.Case

namespace SqlGate

/-!
# Table schemas

What a database reports about its tables: which there are, their columns, the
columns of their keys in order, and the tables they refer to.  A schema is
written as a document and read back from one.
-/

/-- Whether rows are stored or computed. -/
inductive TableType where
  | table
  | view
deriving DecidableEq, Repr

namespace TableType

/-- The type that a catalog means by a word: any word with "view" in it is a view. -/
def ofCatalog (word : String) : TableType :=
  if Text.contains (Text.lower word) "view" then .view else .table

def documentName : TableType -> String
  | .table => "table"
  | .view => "view"

end TableType

/-- A table or view of a database. -/
structure TableInfo where
  name : String
  /-- The schema it belongs to, where there are schemas. -/
  schema : Option String := none
  /-- Whether it is a table or a view. -/
  tableType : TableType
deriving DecidableEq, Repr

/-- A column of a table. -/
structure ColumnDefinition where
  name : String
  /-- Its type, as the database writes it. -/
  dataType : String
  /-- Whether it may be null. -/
  nullable : Bool
  /-- The expression of its default. -/
  defaultValue : Option String := none
  /-- Whether it belongs to the primary key. -/
  isPrimaryKey : Bool := false
deriving DecidableEq, Repr

/-- What happens to referring rows when a row is deleted or its key changes. -/
inductive ForeignKeyAction where
  | cascade
  | setNull
  | setDefault
  | restrict
  | noAction
deriving DecidableEq, Repr

namespace ForeignKeyAction

/-- The actions in their order. -/
def all : List ForeignKeyAction :=
  [.cascade, .setNull, .setDefault, .restrict, .noAction]

def sql : ForeignKeyAction -> String
  | .cascade => "CASCADE"
  | .setNull => "SET NULL"
  | .setDefault => "SET DEFAULT"
  | .restrict => "RESTRICT"
  | .noAction => "NO ACTION"

def documentName : ForeignKeyAction -> String
  | .cascade => "CASCADE"
  | .setNull => "SET_NULL"
  | .setDefault => "SET_DEFAULT"
  | .restrict => "RESTRICT"
  | .noAction => "NO_ACTION"

/-- The action that a catalog means by a text, in any case. -/
def parse? (s : String) : Option ForeignKeyAction :=
  all.find? fun action => action.sql == Text.upper s

def ofDocumentName? (name : String) : Option ForeignKeyAction :=
  all.find? fun action => action.documentName == name

end ForeignKeyAction

/-- A column that refers to another table. -/
structure ForeignKey where
  /-- The referring column. -/
  column : String
  referencesTable : String
  /-- The column referred to; empty if it is the key of that table. -/
  referencesColumn : String
  /-- What happens when a row referred to is deleted. -/
  onDelete : Option ForeignKeyAction := none
  /-- What happens when a key referred to changes. -/
  onUpdate : Option ForeignKeyAction := none
deriving DecidableEq, Repr

/-- All that is known of one table. -/
structure TableSchema where
  tableName : String
  /-- Its columns in order. -/
  columns : List ColumnDefinition
  /-- The columns of its primary key in the order of the key. -/
  primaryKey : List String
  /-- Its references to other tables. -/
  foreignKeys : List ForeignKey
deriving DecidableEq, Repr

/-! ## Writing -/

/-- A field that is left out when there is nothing to write. -/
def presentField (name : String) (value : Option Json) : List (String × Json) :=
  (value.map fun found => (name, found)).toList

def TableInfo.toJson (info : TableInfo) : Json :=
  .object ([("name", .text info.name)] ++ presentField "schema" (info.schema.map .text)
    ++ [("table_type", .text info.tableType.documentName)])

def ColumnDefinition.toJson (column : ColumnDefinition) : Json :=
  .object ([("name", .text column.name), ("data_type", .text column.dataType),
      ("nullable", .bool column.nullable)]
    ++ presentField "default_value" (column.defaultValue.map .text)
    ++ [("is_primary_key", .bool column.isPrimaryKey)])

def ForeignKeyAction.toJson (action : ForeignKeyAction) : Json :=
  .text action.documentName

def ForeignKey.toJson (key : ForeignKey) : Json :=
  .object ([("column", .text key.column), ("references_table", .text key.referencesTable),
      ("references_column", .text key.referencesColumn)]
    ++ presentField "on_delete" (key.onDelete.map ForeignKeyAction.toJson)
    ++ presentField "on_update" (key.onUpdate.map ForeignKeyAction.toJson))

def TableSchema.toJson (schema : TableSchema) : Json :=
  .object
    [("table_name", .text schema.tableName),
      ("columns", .list (schema.columns.map ColumnDefinition.toJson)),
      ("primary_key", .list (schema.primaryKey.map .text)),
      ("foreign_keys", .list (schema.foreignKeys.map ForeignKey.toJson))]

/-! ## Reading -/

open Json (Record Tree)

def ColumnDefinition.ofTree? (tree : Tree) : Option ColumnDefinition := do
  let record <- Record.ofTree?
    ["name", "data_type", "nullable", "default_value", "is_primary_key"] tree
  let name <- record.required "name" Tree.string?
  let dataType <- record.required "data_type" Tree.string?
  let nullable <- record.required "nullable" Tree.truth?
  let defaultValue <- record.optional "default_value" Tree.string?
  let isPrimaryKey <- record.required "is_primary_key" Tree.truth?
  return ⟨name, dataType, nullable, defaultValue, isPrimaryKey⟩

def ForeignKeyAction.ofTree? (tree : Tree) : Option ForeignKeyAction :=
  tree.choiceName?.bind ForeignKeyAction.ofDocumentName?

def ForeignKey.ofTree? (tree : Tree) : Option ForeignKey := do
  let record <- Record.ofTree?
    ["column", "references_table", "references_column", "on_delete", "on_update"] tree
  let column <- record.required "column" Tree.string?
  let table <- record.required "references_table" Tree.string?
  let target <- record.required "references_column" Tree.string?
  let onDelete <- record.optional "on_delete" ForeignKeyAction.ofTree?
  let onUpdate <- record.optional "on_update" ForeignKeyAction.ofTree?
  return ⟨column, table, target, onDelete, onUpdate⟩

def TableSchema.ofTree? (tree : Tree) : Option TableSchema := do
  let record <- Record.ofTree? ["table_name", "columns", "primary_key", "foreign_keys"] tree
  let tableName <- record.required "table_name" Tree.string?
  let columns <- record.required "columns" (Tree.listOf ColumnDefinition.ofTree?)
  let primaryKey <- record.required "primary_key" (Tree.listOf Tree.string?)
  let foreignKeys <- record.required "foreign_keys" (Tree.listOf ForeignKey.ofTree?)
  return ⟨tableName, columns, primaryKey, foreignKeys⟩

/-- Read a schema from the text of a document. -/
def TableSchema.read? (s : String) : Option TableSchema :=
  (Tree.parse? s).bind TableSchema.ofTree?

end SqlGate
