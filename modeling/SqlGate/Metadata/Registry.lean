import SqlGate.Failure
import SqlGate.Metadata.ModelMetadata
import SqlGate.Text.Blank

namespace SqlGate

/-!
# The registry

A registry holds the metadata of application types.  Registrations of a type
add to its entry and make it when it is not there; a blank table or key is
refused and changes nothing.  A failing operation still mentions in which state it
leaves the registry.
-/

/-- The metadata of application types. -/
structure Registry where
  /-- The entries by what tells their types apart. -/
  entries : Ordered ModelMetadata TypeId
deriving DecidableEq

/-- A single registration for a type. -/
inductive Registration where
  | table (name : String)
  | primaryKey (property : String)
  | column (column : ColumnMetadata)
  | relationship (relationship : RelationshipMetadata)
deriving DecidableEq, Repr

namespace Registration

/-- Why a registration for a type is refused, if it is. -/
def refusal? (type : ModelType) : Registration -> Option Failure
  | .table name =>
      if Text.isBlankText name then
        some (.invalidInput ("Table name for " ++ type.name ++ " must not be empty"))
      else none
  | .primaryKey property =>
      if Text.isBlankText property then
        some (.invalidInput ("Primary key for " ++ type.name ++ " must not be empty"))
      else none
  | .column _ | .relationship _ => none

/-- What a registration that is not refused does to the metadata of its type. -/
def applyTo (m : ModelMetadata) : Registration -> ModelMetadata
  | .table name => { m with tableName := name }
  | .primaryKey property => m.withPrimaryKey property
  | .column added => m.withColumn added
  | .relationship added => m.withRelationship added

end Registration

/-- A declarative description of one type. -/
structure ModelDescription where
  table : String
  primaryKey : Option String := none
  /-- The columns in order. -/
  columns : List ColumnMetadata := []
  /-- The relations in order. -/
  relationships : List RelationshipMetadata := []

/-- The registrations that a description stands for. -/
def ModelDescription.registrations (d : ModelDescription) : List Registration :=
  .table d.table :: (d.primaryKey.map Registration.primaryKey).toList
    ++ d.columns.map .column ++ d.relationships.map .relationship

namespace Registry

def empty : Registry := ⟨Ordered.empty⟩

def metadata? (r : Registry) (type : ModelType) : Option ModelMetadata :=
  r.entries.get? type.id

/-- Set the metadata of a type as a whole. -/
def setMetadata (r : Registry) (type : ModelType) (m : ModelMetadata) : Registry :=
  ⟨r.entries.put type.id m⟩

/-- Change the entry of a type, which is made when it is not there. -/
def update (r : Registry) (type : ModelType) (change : ModelMetadata -> ModelMetadata) : Registry :=
  r.setMetadata type (change ((r.metadata? type).getD {}))

def register (r : Registry) (type : ModelType) (registration : Registration) :
    Outcome Unit × Registry :=
  match registration.refusal? type with
  | some failure => (.error failure, r)
  | none => (.ok (), r.update type registration.applyTo)

/-- Carry out registrations up to the first that is refused. -/
def registerAll (r : Registry) (type : ModelType) : List Registration -> Outcome Unit × Registry
  | [] => (.ok (), r)
  | registration :: rest =>
      match r.register type registration with
      | (.ok (), next) => registerAll next type rest
      | (.error failure, next) => (.error failure, next)

/-- Register all that a description mentions of a type. -/
def registerModel (r : Registry) (type : ModelType) (d : ModelDescription) :
    Outcome Unit × Registry :=
  r.registerAll type d.registrations

def clear (_r : Registry) : Registry := empty

/-! ## Lookups -/

def isRegistered (r : Registry) (type : ModelType) : Bool :=
  (r.metadata? type).isSome

def column? (r : Registry) (type : ModelType) (property : String) : Option ColumnMetadata :=
  (r.metadata? type).bind fun m => m.columns.get? property

def relationship? (r : Registry) (type : ModelType) (property : String) :
    Option RelationshipMetadata :=
  (r.metadata? type).bind fun m => m.relationships.get? property

def primaryKey? (r : Registry) (type : ModelType) : Option String :=
  (r.metadata? type).bind ModelMetadata.primaryKey

def tableName? (r : Registry) (type : ModelType) : Option String :=
  ((r.metadata? type).filter ModelMetadata.hasTable).map ModelMetadata.tableName

def columns (r : Registry) (type : ModelType) : Ordered ColumnMetadata :=
  ((r.metadata? type).map ModelMetadata.columns).getD Ordered.empty

def relationships (r : Registry) (type : ModelType) : Ordered RelationshipMetadata :=
  ((r.metadata? type).map ModelMetadata.relationships).getD Ordered.empty

def size (r : Registry) : Nat :=
  r.entries.size

def isEmpty (r : Registry) : Bool :=
  r.entries.isEmpty

theorem metadata?_setMetadata (r : Registry) (type other : ModelType) (m : ModelMetadata) :
    (r.setMetadata type m).metadata? other
      = if other = type then some m else r.metadata? other := by
  simp only [metadata?, setMetadata, Ordered.get?_put]
  congr 1
  cases other
  cases type
  simp

theorem metadata?_update (r : Registry) (type other : ModelType)
    (change : ModelMetadata -> ModelMetadata) :
    (r.update type change).metadata? other
      = if other = type then some (change ((r.metadata? type).getD {})) else r.metadata? other :=
  metadata?_setMetadata r type other _

end Registry
end SqlGate
