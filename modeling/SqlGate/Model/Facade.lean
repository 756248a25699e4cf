import SqlGate.Metadata.Registry
import SqlGate.Model.Hydration
import SqlGate.Query.Terminal

namespace SqlGate

/-!
# Models

A model joins an application type, the registry and a manager.  What it needs
is checked in a fixed order before anything is sent: the entry of the type, its
key, its table, and the connection.
-/

/-- An application type with the manager that its statements run on, if there is one. -/
structure Model (α : Type) where
  /-- The type. -/
  readable : ReadableType α
  /-- The manager. -/
  target : Option ManagerId := none

namespace Model

variable {α σ : Type}

def lacks (model : Model α) (missing : Missing) : Failure :=
  .precondition missing model.readable.type.name

def shown (model : Model α) : String :=
  "Model \x7b type: " ++ Text.shown model.readable.type.name ++ ", connected: "
    ++ String.ofList (Json.writeBool model.target.isSome) ++ " \x7d"

def metadata? (model : Model α) (registry : Registry) : Option ModelMetadata :=
  registry.metadata? model.readable.type

/-- The builder of the statement that finds an object by its key, and the metadata to read it. -/
def findBuilder (model : Model α) (registry : Registry) (id : Value) :
    Outcome (ModelMetadata × Builder) :=
  match model.metadata? registry with
  | none => .error (model.lacks .metadata)
  | some m =>
      match m.primaryKeyColumn with
      | none => .error (model.lacks .primaryKey)
      | some column =>
          if !m.hasTable then .error (model.lacks .tableName)
          else if model.target.isNone then .error (model.lacks .connection)
          else .ok (m, ((Builder.new m.tableName).select).whereEq column id)

/-- Find an object by its key. -/
def find (driver : Driver σ) (model : Model α) (registry : Registry) (id : Value)
    (g : Gateway σ) : Outcome (Option α) × Gateway σ :=
  match model.findBuilder registry id with
  | .error failure => (.error failure, g)
  | .ok (m, b) =>
      match b.getOne driver model.target g with
      | (.error failure, g) => (.error failure, g)
      | (.ok none, g) => (.ok none, g)
      | (.ok (some row), g) => ((hydrate model.readable m row).map some, g)

/-- A builder that selects from the table of the type. -/
def query (model : Model α) (registry : Registry) : Outcome Builder :=
  match registry.tableName? model.readable.type with
  | none => .error (model.lacks .tableName)
  | some table =>
      if model.target.isNone then .error (model.lacks .connection)
      else .ok (Builder.new table).select

def fromRow (model : Model α) (registry : Registry) (row : Row) : Outcome α :=
  hydrate model.readable ((model.metadata? registry).getD {}) row

end Model
end SqlGate
