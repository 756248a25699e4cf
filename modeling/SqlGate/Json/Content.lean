import SqlGate.Json.Reading

namespace SqlGate
namespace Json

/-!
# Contents

A reader that does not know the kind of what it reads keeps the content of the
text first and tries kinds on it afterwards.  A content is a document in which
the fields of an object are all there, repeated ones too; it has the same
depth of nesting as a document, and its numbers and strings have values.  A text
that an object carries is kept as it is, and read when the document is made.
-/

/-- What was read of a text before its kind is known. -/
inductive Content where
  | null
  | bool (value : Bool)
  | number (value : Numeral)
  | text (value : String)
  | list (items : List Content)
  | object (fields : List (String × Content))
deriving Inhabited

mutual

/-- The content of a tree with at most `depth` levels of lists and objects. -/
def Tree.content? (depth : Nat) : Tree -> Option Content
  | .null => some .null
  | .bool b => some (.bool b)
  | .number n => n.map .number
  | .text s => s.map .text
  | .list items =>
      match depth with
      | 0 => none
      | depth + 1 => (Tree.itemContents? depth items).map .list
  | .object fields =>
      match depth with
      | 0 => none
      | depth + 1 => (Tree.fieldContents? depth fields).map .object

def Tree.itemContents? (depth : Nat) : List Tree -> Option (List Content)
  | [] => some []
  | item :: rest =>
      match Tree.content? depth item, Tree.itemContents? depth rest with
      | some found, some others => some (found :: others)
      | _, _ => none

def Tree.fieldContents? (depth : Nat) :
    List (Option String × Tree) -> Option (List (String × Content))
  | [] => some []
  | (key, value) :: rest =>
      match key, Tree.content? depth value, Tree.fieldContents? depth rest with
      | some key, some found, some others => some ((key, found) :: others)
      | _, _, _ => none

end

def Content.text? : Content -> Option String
  | .text s => some s
  | _ => none

mutual

/-- The document of a content; of a repeated field the first place and the last value remain, and
for an object that carries a text the document of the text stands. -/
def Content.toJson? : Content -> Option Json
  | .null => some .null
  | .bool b => some (.bool b)
  | .number n => some (.number n)
  | .text s => some (.text s)
  | .list items => (Content.itemsToJson? items).map .list
  | .object fields =>
      match carried? carrierKey Content.text? fields with
      | some carried => carried.bind parse?
      | none =>
          (Content.fieldsToJson? fields).map fun found => .object (Ordered.ofList found).entries

def Content.itemsToJson? : List Content -> Option (List Json)
  | [] => some []
  | item :: rest =>
      match item.toJson?, Content.itemsToJson? rest with
      | some found, some others => some (found :: others)
      | _, _ => none

/-- The documents of the fields of an object, repeated ones included. -/
def Content.fieldsToJson? : List (String × Content) -> Option (List (String × Json))
  | [] => some []
  | (key, value) :: rest =>
      match value.toJson?, Content.fieldsToJson? rest with
      | some found, some others => some ((key, found) :: others)
      | _, _ => none

end

def Content.parse? (s : String) : Option Content :=
  (Tree.parse? s).bind (Tree.content? maxDepth)

end Json
end SqlGate
