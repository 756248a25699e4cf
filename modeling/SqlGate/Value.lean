import SqlGate.Json.Content
import SqlGate.Json.Printer
import SqlGate.Text.Quoted

namespace SqlGate

/-!
# Bound values

A value is bound to a placeholder of a statement and never becomes part of its
text.  Values are also read from texts, once by taking the first kind that
fits the content and once by looking at the document.
-/

/-- A value bound to a placeholder. -/
inductive Value where
  | null
  | bool (value : Bool)
  | int (value : Int64)
  | float (value : Binary64)
  | text (value : String)
  | json (document : Json)
deriving DecidableEq, Inhabited

namespace Value

def isNull : Value -> Bool
  | .null => true
  | _ => false

def kindName : Value -> String
  | .null => "null"
  | .bool _ => "bool"
  | .int _ => "int"
  | .float _ => "float"
  | .text _ => "text"
  | .json _ => "json"

/-- The document of a value; infinite numbers and NaN become their names. -/
def toJson : Value -> Json
  | .null => .null
  | .bool b => .bool b
  | .int n => Json.ofInt64 n
  | .float x => (Json.ofFinite? x).getD (.text (Number.plainText x))
  | .text s => .text s
  | .json document => document

/-- The text that a value is serialized to, each kind by itself; infinite numbers and NaN are null
there. -/
def serialized : Value -> String
  | .null => Json.compact .null
  | .bool b => String.ofList (Json.writeBool b)
  | .int n => Text.ofInt n.toInt
  | .float x => if x.isFinite then Number.jsonText x else Json.compact .null
  | .text s => String.ofList (Json.writeString s)
  | .json document => document.compact

/-- The value as it is shown: texts and documents as SQL literals. -/
def display : Value -> String
  | .null => "NULL"
  | .bool b => String.ofList (Json.writeBool b)
  | .int n => Text.ofInt n.toInt
  | .float x => Number.plainText x
  | .text s => Text.quoted s
  | .json document => Text.quoted document.compact

/-- Equality as numbers: a NaN differs from itself and the two zeros are equal. -/
def same : Value -> Value -> Bool
  | .float x, .float y => x.sameNumber y
  | a, b => a == b

/-! ## Reading -/

/-- The value of a number: an integer if it is one of 64 bits with a sign. -/
def ofNumeral (n : Json.Numeral) : Value :=
  match n.toInt64? with
  | some i => .int i
  | none => .float n.toBinary64

/-- The value of a document: its scalar, or the document itself. -/
def ofScalar : Json -> Value
  | .null => .null
  | .bool b => .bool b
  | .number n => ofNumeral n
  | .text s => .text s
  | document => .json document

/-- Read a text: a document gives its scalar or itself, all else is the text as it stands. -/
def parseLoose (s : String) : Value :=
  match Json.parse? s with
  | some document => ofScalar document
  | none => .text s

def nullOf? : Json.Content -> Option Value
  | .null => some .null
  | _ => none

def boolOf? : Json.Content -> Option Value
  | .bool b => some (.bool b)
  | _ => none

/-- A whole number of 64 bits with a sign. -/
def intOf? : Json.Content -> Option Value
  | .number n => n.toInt64?.map .int
  | _ => none

/-- Any number, rounded to a double. -/
def floatOf? : Json.Content -> Option Value
  | .number n => some (.float n.toBinary64)
  | _ => none

def textOf? : Json.Content -> Option Value
  | .text s => some (.text s)
  | _ => none

def jsonOf? (content : Json.Content) : Option Value :=
  content.toJson?.map .json

/-- The value of a content: the first kind that accepts it. -/
def firstOf? (content : Json.Content) : Option Value :=
  let kinds := [nullOf?, boolOf?, intOf?, floatOf?, textOf?, jsonOf?]
  kinds.findSome? fun kind => kind content

/-- Read a text by its content; a text that has none has no value. -/
def read? (s : String) : Option Value :=
  (Json.Content.parse? s).bind firstOf?

end Value

/-! ## Binding -/

/-- A single-precision number, given by its bits. -/
structure Single where
  /-- Sign, exponent and fraction. -/
  bits : UInt32

/-- What can be bound to a placeholder. -/
class ToValue (α : Type) where
  /-- The value that is bound. -/
  toValue : α -> Value

export ToValue (toValue)

instance : ToValue Value := ⟨id⟩
instance : ToValue Bool := ⟨.bool⟩
instance : ToValue Int64 := ⟨.int⟩
instance : ToValue Int32 := ⟨fun n => .int (Int64.ofInt n.toInt)⟩
instance : ToValue Int16 := ⟨fun n => .int (Int64.ofInt n.toInt)⟩
instance : ToValue UInt32 := ⟨fun n => .int (Int64.ofNat n.toNat)⟩
instance : ToValue UInt16 := ⟨fun n => .int (Int64.ofNat n.toNat)⟩
instance : ToValue UInt8 := ⟨fun n => .int (Int64.ofNat n.toNat)⟩
instance : ToValue Binary64 := ⟨.float⟩
instance : ToValue Single := ⟨fun x => .float (Binary64.ofSingleBits x.bits.toNat)⟩
instance : ToValue String := ⟨.text⟩

/-- A document is bound as one, except that the null document is the null value. -/
instance : ToValue Json where
  toValue
    | .null => .null
    | document => .json document

/-- What is absent is bound as null. -/
instance {α : Type} [ToValue α] : ToValue (Option α) where
  toValue
    | some a => toValue a
    | none => .null

/-- A row of a result: columns in order with the values they were decoded to. -/
abbrev Row := Ordered Json

/-- What a statement answered. -/
structure QueryResult where
  /-- The rows returned. -/
  rows : List Row
  /-- How many rows were returned, or affected where none is returned. -/
  rowCount : Nat

namespace QueryResult

def isEmpty (result : QueryResult) : Bool :=
  result.rows.isEmpty

def first? (result : QueryResult) : Option Row :=
  result.rows.head?

def toJson (result : QueryResult) : Json :=
  .object
    [("rows", .list (result.rows.map fun row => .object row.entries)),
      ("row_count", Json.orNull (Json.ofInt? (Int.ofNat result.rowCount)))]

end QueryResult
end SqlGate
