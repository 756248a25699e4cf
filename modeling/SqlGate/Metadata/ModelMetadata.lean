import SqlGate.Ordered

namespace SqlGate

/-!
# How application types map to tables

The metadata of a type tell its table, the property that is its key, its
columns and its relations to other types.  Columns and relations are keyed by
property and keep the order in which they were registered.
-/

/-- What tells an application type from all others; types that are different may share a name. -/
structure TypeId where
  /-- The full name. -/
  name : String
  /-- Which of the types of this name it is. -/
  mark : Nat := 0
deriving DecidableEq, Repr

/-- A name stands for the first type of this name. -/
instance : Coe String TypeId := ⟨fun name => { name := name }⟩

/-- An application type. -/
structure ModelType where
  /-- What tells it from all others. -/
  id : TypeId
deriving DecidableEq, Repr

/-- The name that messages show. -/
def ModelType.name (type : ModelType) : String :=
  type.id.name

/-- Options of a column; what is not set is left to the database. -/
structure ColumnOptions where
  /-- The length of its type. -/
  length : Option Nat := none
  /-- Whether it may be null. -/
  nullable : Option Bool := none
  /-- Whether its values differ from row to row. -/
  unique : Option Bool := none
  /-- The expression of its default. -/
  default : Option String := none
  /-- Whether the database makes its values. -/
  generated : Option Bool := none
deriving DecidableEq, Repr

/-- How a property maps to a column. -/
structure ColumnMetadata where
  /-- The column. -/
  name : String
  property : String
  /-- The type of the column. -/
  sqlType : String
  options : ColumnOptions := {}
deriving DecidableEq, Repr

/-- How many objects stand on each side of a relation. -/
inductive RelationshipKind where
  | oneToMany
  | manyToOne
  | manyToMany
deriving DecidableEq, Repr

def RelationshipKind.display : RelationshipKind -> String
  | .oneToMany => "one-to-many"
  | .manyToOne => "many-to-one"
  | .manyToMany => "many-to-many"

/-- Options of a relation. -/
structure RelationshipOptions where
  /-- Whether it is loaded when it is asked for. -/
  lazy : Option Bool := none
  /-- Whether it is loaded together with its owner. -/
  eager : Option Bool := none
  /-- Whether changes go on to the other side. -/
  cascade : Option Bool := none
deriving DecidableEq, Repr

/-- A relation of a property to another type. -/
structure RelationshipMetadata where
  /-- How many objects stand on each side. -/
  kind : RelationshipKind
  property : String
  /-- The property of the other type that leads back. -/
  inverse : Option String := none
  options : RelationshipOptions := {}
  /-- The other type. -/
  target : ModelType
deriving DecidableEq, Repr

/-- Whether a relation leads to a type. -/
def RelationshipMetadata.targets (relationship : RelationshipMetadata) (type : ModelType) : Bool :=
  relationship.target == type

/-- The metadata of one type. -/
structure ModelMetadata where
  /-- The table, empty if there is none yet. -/
  tableName : String := ""
  /-- The property that is the key. -/
  primaryKey : Option String := none
  /-- The columns by property. -/
  columns : Ordered ColumnMetadata := Ordered.empty
  /-- The relations by property. -/
  relationships : Ordered RelationshipMetadata := Ordered.empty
deriving DecidableEq

namespace ColumnMetadata

/-- A column with the name of its property. -/
def new (property sqlType : String) : ColumnMetadata :=
  { name := property, property := property, sqlType := sqlType }

/-- Map the property to another column. -/
def column (c : ColumnMetadata) (name : String) : ColumnMetadata :=
  { c with name := name }

def length (c : ColumnMetadata) (length : Nat) : ColumnMetadata :=
  { c with options := { c.options with length := some length } }

def nullable (c : ColumnMetadata) (nullable : Bool) : ColumnMetadata :=
  { c with options := { c.options with nullable := some nullable } }

def unique (c : ColumnMetadata) : ColumnMetadata :=
  { c with options := { c.options with unique := some true } }

def defaultValue (c : ColumnMetadata) (expression : String) : ColumnMetadata :=
  { c with options := { c.options with default := some expression } }

def generated (c : ColumnMetadata) : ColumnMetadata :=
  { c with options := { c.options with generated := some true } }

end ColumnMetadata

namespace ModelMetadata

/-- The metadata of a table without anything else. -/
def new (tableName : String) : ModelMetadata :=
  { tableName := tableName }

def withPrimaryKey (m : ModelMetadata) (property : String) : ModelMetadata :=
  { m with primaryKey := some property }

def withColumn (m : ModelMetadata) (column : ColumnMetadata) : ModelMetadata :=
  { m with columns := m.columns.put column.property column }

def withRelationship (m : ModelMetadata) (relationship : RelationshipMetadata) : ModelMetadata :=
  { m with relationships := m.relationships.put relationship.property relationship }

def hasTable (m : ModelMetadata) : Bool :=
  !m.tableName.isEmpty

/-- The column of a property; a property without one is its own column. -/
def columnName (m : ModelMetadata) (property : String) : String :=
  ((m.columns.get? property).map ColumnMetadata.name).getD property

def primaryKeyColumn (m : ModelMetadata) : Option String :=
  m.primaryKey.map m.columnName

end ModelMetadata
end SqlGate
