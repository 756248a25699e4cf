import SqlGate.Bytes.Base64
import SqlGate.Catalog.TypeCategory
import SqlGate.Embedded.Select
import SqlGate.Value

namespace SqlGate
namespace Embedded

/-!
# Rows as documents

The declared type of a column has one of a few names, the name a category, and
the category decides which classes of cells are read.  Most categories read a
cell as what it is.
-/

/-- The name of a declared type, which an expression has not. -/
def typeNameOf (declared : Option String) : String :=
  match declared with
  | none => "NULL"
  | some declared =>
      let name := Text.lower declared
      let mentions := fun parts => List.any parts (Text.contains name)
      if name = "boolean" ∨ name = "bool" then "BOOLEAN"
      else if name = "date" then "DATE"
      else if name = "time" then "TIME"
      else if name = "datetime" ∨ name = "timestamp" then "DATETIME"
      else if mentions ["int"] then "INTEGER"
      else if mentions ["char", "clob", "text"] then "TEXT"
      else if mentions ["blob"] then "BLOB"
      else if mentions ["real", "floa", "doub"] then "REAL"
      else "NULL"

/-- The document of a double: infinities and what is no number are texts. -/
def realDocument (x : Binary64) : Json :=
  (Json.ofFinite? x).getD (.text (Number.plainText x))

def binaryDocument (bytes : List UInt8) : Json :=
  .text (Bytes.base64 bytes)

/-- Read a truth value: only integers are some. -/
def decodeTruth : Cell -> Json
  | .int n => .bool (n != 0)
  | _ => .null

/-- Read bytes: those of a blob or of a text. -/
def decodeBinary : Cell -> Json
  | .blob bytes => binaryDocument bytes
  | .text s => binaryDocument (Bytes.ofText s)
  | _ => .null

/-- Read a text; that of a type with documents is parsed where it is one. -/
def decodeText (typeName : String) : Cell -> Json
  | .text s =>
      if Text.contains (Text.lower typeName) "json" then (Json.parse? s).getD (.text s)
      else .text s
  | _ => .null

/-- Read a cell as what it is. -/
def decodeAny (typeName : String) (cell : Cell) : Json :=
  match cell with
  | .null => .null
  | .int n => Json.ofInt64 n
  | .real x => realDocument x
  | .text _ => decodeText typeName cell
  | .blob _ => decodeBinary cell

/-- Read a cell of a column with a type name of a category. -/
def decodeAs (category : TypeCategory) (typeName : String) (cell : Cell) : Json :=
  match category with
  | .boolean => decodeTruth cell
  | .binary => decodeBinary cell
  | .json => decodeText typeName cell
  | _ => decodeAny typeName cell

def decodeCell (declared : Option String) (cell : Cell) : Json :=
  let typeName := typeNameOf declared
  decodeAs (TypeCategory.ofName typeName .sqlite) typeName cell

def decodeRow (columns : List ResultColumn) (cells : List Cell) : Row :=
  Ordered.ofList ((columns.zip cells).map fun entry =>
    (entry.1.name, decodeCell entry.1.declared entry.2))

def ResultTable.decode (result : ResultTable) : List Row :=
  result.rows.map (decodeRow result.columns)

end Embedded
end SqlGate
