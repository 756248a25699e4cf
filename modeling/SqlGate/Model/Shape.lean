import SqlGate.Text.Printable
import SqlGate.Value

namespace SqlGate

/-!
# Shapes of application types

A shape lists the fields of a type and what each of them holds.  An object is
read field by field in its own order, fields that the shape does not name are
passed over, and a field that was not found is reported in the order of the
shape unless it may be absent.
-/

/-- What a field holds. -/
inductive FieldType where
  | text
  | int
  | float
  | bool
deriving DecidableEq, Repr

/-- A field of a type. -/
structure ShapeField where
  /-- The name of the field in an object. -/
  name : String
  /-- What it holds. -/
  type : FieldType
  /-- Whether it may be null or absent. -/
  isOptional : Bool := false
deriving DecidableEq, Repr

/-- The fields of a type in the order of their declaration. -/
abbrev Shape := List ShapeField

/-- Why an object does not fit a shape. -/
inductive ShapeFault where
  | missing (field : String)
  | wrongType (found : Json) (expected : FieldType)
  | outOfRange (found : Int)
deriving DecidableEq

namespace ShapeFault

def typeName : FieldType -> String
  | .text => "a string"
  | .int => "i64"
  | .float => "f64"
  | .bool => "a boolean"

/-- A double with a point in any case. -/
def pointedText (x : Binary64) : String :=
  let text := Number.plainText x
  if text.toList.contains '.' then text else text ++ ".0"

def describe : Json -> String
  | .null => "null"
  | .bool b => "boolean `" ++ String.ofList (Json.writeBool b) ++ "`"
  | .number (.whole n _) => "integer `" ++ Text.ofInt n ++ "`"
  | .number (.float x _) => "floating point `" ++ pointedText x ++ "`"
  | .text s => "string " ++ Text.shown s
  | .list _ => "sequence"
  | .object _ => "map"

def message : ShapeFault -> String
  | .missing field => "missing field `" ++ field ++ "`"
  | .wrongType found expected =>
      "invalid type: " ++ describe found ++ ", expected " ++ typeName expected
  | .outOfRange found =>
      "invalid value: integer `" ++ Text.ofInt found ++ "`, expected i64"

end ShapeFault

namespace FieldType

/-- Read a value that a field must hold; a whole number is a float too. -/
def read (type : FieldType) (found : Json) : Except ShapeFault Value :=
  match type, found with
  | .text, .text s => .ok (.text s)
  | .bool, .bool b => .ok (.bool b)
  | .float, .number n => .ok (.float n.toBinary64)
  | .int, .number (.whole n h) =>
      match (Json.Numeral.whole n h).toInt64? with
      | some i => .ok (.int i)
      | none => .error (.outOfRange n)
  | type, found => .error (.wrongType found type)

end FieldType

namespace ShapeField

def read (field : ShapeField) (found : Json) : Except ShapeFault Value :=
  match field.isOptional, found with
  | true, .null => .ok .null
  | _, found => field.type.read found

/-- The value of a field that was not found. -/
def absent (field : ShapeField) : Except ShapeFault Value :=
  if field.isOptional then .ok .null else .error (.missing field.name)

end ShapeField

namespace Shape

/-- Read the fields of an object that the shape names, in the order of the object. -/
def readPresent (shape : Shape) : List (String × Json) -> Except ShapeFault (List (String × Value))
  | [] => .ok []
  | (name, found) :: rest =>
      match shape.find? fun field => field.name == name with
      | none => readPresent shape rest
      | some field => do
          let value <- field.read found
          let others <- readPresent shape rest
          return (name, value) :: others

/-- Read an object: the value of each field in the order of the shape. -/
def read (shape : Shape) (object : Ordered Json) : Except ShapeFault (List Value) := do
  let present <- readPresent shape object.entries
  shape.mapM fun field =>
    match present.lookup field.name with
    | some value => .ok value
    | none => field.absent

end Shape
end SqlGate
