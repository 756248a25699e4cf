import SqlGate.Catalog.Schema
import SqlGate.Config.Connection
import SqlGate.Proofs.Json.Records

namespace SqlGate

/-!
# Configurations and schemas read back

Each record that is written as a document has its slots named here: all fields
that its reader knows, with what the writer puts into them.  That the document is
the object of these slots ties the two together, so a field that only one of them
knew, or knew under another name, would have no place.

The password of a configuration has a slot that is always empty.  The default of
a column and the actions of a reference fill theirs only when they are there,
while the options of a pool and the parts of an address fill theirs with null.
-/

open Json (Restores Slots)

/-! ## Pool options -/

namespace PoolOptions

theorem restores_ofUInt32 : Restores ofUInt32 uint32? := by
  intro n
  have fits : n.toUInt64.toNat < Nat.pow 2 32 := n.toNat_lt
  rw [ofUInt32, uint32?, Json.unsigned?_ofUInt64 fits, Option.map_some, UInt32.toNat_toUInt64,
    UInt32.ofNat_toNat]

theorem restores_ofUInt64 : Restores Json.ofUInt64 uint64? := by
  intro n
  have fits : n.toNat < Nat.pow 2 64 := n.toNat_lt
  rw [uint64?, Json.unsigned?_ofUInt64 fits, Option.map_some, UInt64.ofNat_toNat]

def slots (options : PoolOptions) : Slots fieldNames where
  all :=
    [("max_connections", some (Json.orNull (options.maxConnections.map ofUInt32))),
      ("min_connections", some (Json.orNull (options.minConnections.map ofUInt32))),
      ("idle_timeout_secs", some (Json.orNull (options.idleTimeout.map Json.ofUInt64))),
      ("acquire_timeout_secs", some (Json.orNull (options.acquireTimeout.map Json.ofUInt64))),
      ("test_before_acquire", some (Json.orNull (options.testBeforeAcquire.map .bool)))]
  named := rfl
  distinct := by decide

theorem toJson_eq (options : PoolOptions) : options.toJson = options.slots.document := rfl

@[simp] theorem isExact_toJson (options : PoolOptions) : options.toJson.IsExact := by
  apply options.slots.isExact_document
  simp [slots, ofUInt32]

theorem restores_toJson : Restores toJson ofTree? := by
  intro options
  have number := restores_ofUInt32.orNull rfl
  have seconds := restores_ofUInt64.orNull rfl
  have truth := Json.restores_bool.orNull rfl
  rw [toJson_eq, ofTree?, options.slots.ofTree?_document]
  simp only [Option.bind_eq_bind, Option.bind_some]
  rw [Slots.optional_record _ "max_connections" rfl (number options.maxConnections),
    Slots.optional_record _ "min_connections" rfl (number options.minConnections),
    Slots.optional_record _ "idle_timeout_secs" rfl (seconds options.idleTimeout),
    Slots.optional_record _ "acquire_timeout_secs" rfl (seconds options.acquireTimeout),
    Slots.optional_record _ "test_before_acquire" rfl (truth options.testBeforeAcquire)]
  rfl

end PoolOptions

/-! ## Configurations -/

theorem DatabaseKind.ofDocumentName?_documentName (kind : DatabaseKind) :
    ofDocumentName? kind.documentName = some kind := by
  cases kind <;> decide

namespace ConnectionConfig

theorem restores_port : Restores (fun p : UInt16 => Json.ofUInt64 p.toUInt64) port? := by
  intro p
  have fits : p.toUInt64.toNat < Nat.pow 2 16 := p.toNat_lt
  rw [port?, Json.unsigned?_ofUInt64 fits, Option.map_some, UInt16.toNat_toUInt64,
    UInt16.ofNat_toNat]

def slots (config : ConnectionConfig) : Slots fieldNames where
  all :=
    [("db_type", some (.text config.kind.documentName)),
      ("host", some (Json.ofText? config.host)),
      ("port", some (Json.orNull (config.port.map fun p => Json.ofUInt64 p.toUInt64))),
      ("database", some (.text config.database)),
      ("username", some (Json.ofText? config.username)),
      ("password", none),
      ("pool_options", some config.pool.toJson)]
  named := rfl
  distinct := by decide

theorem toJson_eq (config : ConnectionConfig) : config.toJson = config.slots.document := rfl

theorem isExact_toJson (config : ConnectionConfig) : config.toJson.IsExact := by
  apply config.slots.isExact_document
  simp [slots, Json.ofText?]

/-- A configuration is read back from its document without its password. -/
theorem ofTree?_toJson (config : ConnectionConfig) :
    ofTree? config.toJson.tree = some { config with password := none } := by
  have kind := Json.restores_name DatabaseKind.ofDocumentName?_documentName config.kind
  have text := Json.restores_text.orNull rfl
  have port := restores_port.orNull rfl
  have pool := PoolOptions.restores_toJson config.pool
  rw [toJson_eq, ofTree?, config.slots.ofTree?_document]
  simp only [Option.bind_eq_bind, Option.bind_some]
  rw [Slots.required_record _ "db_type" rfl kind,
    Slots.defaulted_record _ "host" rfl none (text config.host),
    Slots.defaulted_record _ "port" rfl none (port config.port),
    Slots.required_record _ "database" rfl (Json.restores_text config.database),
    Slots.defaulted_record _ "username" rfl none (text config.username),
    Slots.defaulted_record_of_empty _ "password" rfl none,
    Slots.defaulted_record _ "pool_options" rfl {} pool]
  rfl

end ConnectionConfig

/-! ## Columns -/

namespace ColumnDefinition

def fieldNames : List String :=
  ["name", "data_type", "nullable", "default_value", "is_primary_key"]

def slots (column : ColumnDefinition) : Slots fieldNames where
  all :=
    [("name", some (.text column.name)),
      ("data_type", some (.text column.dataType)),
      ("nullable", some (.bool column.nullable)),
      ("default_value", column.defaultValue.map .text),
      ("is_primary_key", some (.bool column.isPrimaryKey))]
  named := rfl
  distinct := by decide

theorem toJson_eq (column : ColumnDefinition) : column.toJson = column.slots.document := by
  rw [toJson, slots]
  cases column.defaultValue <;> rfl

@[simp] theorem isExact_toJson (column : ColumnDefinition) : column.toJson.IsExact := by
  rw [toJson_eq]
  apply column.slots.isExact_document
  simp [slots]

theorem restores_toJson : Restores toJson ofTree? := by
  intro column
  rw [toJson_eq, ofTree?, ← fieldNames, column.slots.ofTree?_document]
  simp only [Option.bind_eq_bind, Option.bind_some]
  rw [Slots.required_record _ "name" rfl (Json.restores_text column.name),
    Slots.required_record _ "data_type" rfl (Json.restores_text column.dataType),
    Slots.required_record _ "nullable" rfl (Json.restores_bool column.nullable),
    Slots.optional_record_of_map _ "default_value" rfl Json.restores_text rfl,
    Slots.required_record _ "is_primary_key" rfl (Json.restores_bool column.isPrimaryKey)]
  rfl

end ColumnDefinition

/-! ## References -/

theorem ForeignKeyAction.ofDocumentName?_documentName (action : ForeignKeyAction) :
    ofDocumentName? action.documentName = some action := by
  cases action <;> decide

theorem ForeignKeyAction.restores_toJson : Restores toJson ofTree? :=
  Json.restores_name ofDocumentName?_documentName

namespace ForeignKey

def fieldNames : List String :=
  ["column", "references_table", "references_column", "on_delete", "on_update"]

def slots (key : ForeignKey) : Slots fieldNames where
  all :=
    [("column", some (.text key.column)),
      ("references_table", some (.text key.referencesTable)),
      ("references_column", some (.text key.referencesColumn)),
      ("on_delete", key.onDelete.map ForeignKeyAction.toJson),
      ("on_update", key.onUpdate.map ForeignKeyAction.toJson)]
  named := rfl
  distinct := by decide

theorem toJson_eq (key : ForeignKey) : key.toJson = key.slots.document := by
  rw [toJson, slots]
  cases key.onDelete <;> cases key.onUpdate <;> rfl

@[simp] theorem isExact_toJson (key : ForeignKey) : key.toJson.IsExact := by
  rw [toJson_eq]
  apply key.slots.isExact_document
  simp [slots, ForeignKeyAction.toJson]

theorem restores_toJson : Restores toJson ofTree? := by
  intro key
  have action := ForeignKeyAction.restores_toJson
  rw [toJson_eq, ofTree?, ← fieldNames, key.slots.ofTree?_document]
  simp only [Option.bind_eq_bind, Option.bind_some]
  rw [Slots.required_record _ "column" rfl (Json.restores_text key.column),
    Slots.required_record _ "references_table" rfl (Json.restores_text key.referencesTable),
    Slots.required_record _ "references_column" rfl (Json.restores_text key.referencesColumn),
    Slots.optional_record_of_map _ "on_delete" rfl action rfl,
    Slots.optional_record_of_map _ "on_update" rfl action rfl]
  rfl

end ForeignKey

/-! ## Schemas -/

namespace TableSchema

def fieldNames : List String :=
  ["table_name", "columns", "primary_key", "foreign_keys"]

def slots (schema : TableSchema) : Slots fieldNames where
  all :=
    [("table_name", some (.text schema.tableName)),
      ("columns", some (.list (schema.columns.map ColumnDefinition.toJson))),
      ("primary_key", some (.list (schema.primaryKey.map .text))),
      ("foreign_keys", some (.list (schema.foreignKeys.map ForeignKey.toJson)))]
  named := rfl
  distinct := by decide

theorem toJson_eq (schema : TableSchema) : schema.toJson = schema.slots.document := rfl

theorem isExact_toJson (schema : TableSchema) : schema.toJson.IsExact := by
  apply schema.slots.isExact_document
  simp [slots]

theorem restores_toJson : Restores toJson ofTree? := by
  intro schema
  have columns := ColumnDefinition.restores_toJson.list schema.columns
  have primaryKey := Json.restores_text.list schema.primaryKey
  have foreignKeys := ForeignKey.restores_toJson.list schema.foreignKeys
  rw [toJson_eq, ofTree?, ← fieldNames, schema.slots.ofTree?_document]
  simp only [Option.bind_eq_bind, Option.bind_some]
  rw [Slots.required_record _ "table_name" rfl (Json.restores_text schema.tableName),
    Slots.required_record _ "columns" rfl columns,
    Slots.required_record _ "primary_key" rfl primaryKey,
    Slots.required_record _ "foreign_keys" rfl foreignKeys]
  rfl

end TableSchema

/-- Documents that were written are read back, from the compact form and from the wide form: a
configuration without its password and with every other field as it was, and a schema with all its
columns, keys and references. -/
theorem documents_readBack (config : ConnectionConfig) (schema : TableSchema) :
    (ConnectionConfig.read? config.toJson.compact = some { config with password := none }
      ∧ ConnectionConfig.read? config.toJson.wide = some { config with password := none })
    ∧ TableSchema.read? schema.toJson.compact = some schema
    ∧ TableSchema.read? schema.toJson.wide = some schema := by
  constructor
  · exact config.isExact_toJson.forms config.ofTree?_toJson
  · exact schema.isExact_toJson.forms (TableSchema.restores_toJson schema)

end SqlGate
