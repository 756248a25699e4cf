import SqlGate.Json.Printer
import SqlGate.Text.Printable

namespace SqlGate
namespace Json

/-!
# Outlines

Where a message has to show a value that was not expected, it spells out the
kind of every part of the document.
-/

def joinParts (parts : List String) : String :=
  ", ".intercalate parts

mutual

def outline : Json -> String
  | .null => "Null"
  | .bool b => "Bool(" ++ String.ofList (writeBool b) ++ ")"
  | .number n => "Number(" ++ String.ofList n.write ++ ")"
  | .text s => "String(" ++ Text.shown s ++ ")"
  | .list items => "Array [" ++ joinParts (outlineItems items) ++ "]"
  | .object fields => "Object \x7b" ++ joinParts (outlineFields fields) ++ "\x7d"

def outlineItems : List Json -> List String
  | [] => []
  | item :: rest => outline item :: outlineItems rest

def outlineFields : List (String × Json) -> List String
  | [] => []
  | (key, value) :: rest => (Text.shown key ++ ": " ++ outline value) :: outlineFields rest

end

/-- The outline of a document that may be absent. -/
def outline? : Option Json -> String
  | some document => "Some(" ++ outline document ++ ")"
  | none => "None"

end Json
end SqlGate
