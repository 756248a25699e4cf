import SqlGate.Failure
import SqlGate.Metadata.ModelMetadata
import SqlGate.Model.Shape

namespace SqlGate

/-!
# From rows to application types

A row has the columns of a table, a type has properties.  The columns that map
to a property of another name are renamed one after another in the order of
their registration; then the type reads its fields from the object.
-/

/-- An application type: its name, and how it is read from an object. -/
structure ReadableType (α : Type) where
  type : ModelType
  /-- How an object is read. -/
  read : Ordered Json -> Except ShapeFault α

/-- Rename one column of a row: the value leaves its place and is entered under the property. -/
def renameColumn (row : Row) (column : ColumnMetadata) : Row :=
  if column.name = column.property then row
  else
    match row.get? column.name with
    | some value => (row.swapRemove column.name).put column.property value
    | none => row

def renameColumns (m : ModelMetadata) (row : Row) : Row :=
  m.columns.values.foldl renameColumn row

def hydrate {α : Type} (readable : ReadableType α) (m : ModelMetadata) (row : Row) : Outcome α :=
  match readable.read (renameColumns m row) with
  | .ok a => .ok a
  | .error fault =>
      .error (.internal
        ("Failed to map row onto " ++ readable.type.name ++ ": " ++ fault.message))

end SqlGate
