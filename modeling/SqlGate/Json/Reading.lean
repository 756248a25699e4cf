import SqlGate.Json.Tree
import SqlGate.Ordered

namespace SqlGate
namespace Json

/-!
# From trees to documents

A tree has a document if all its numbers and strings have values and it is
nested no deeper than `maxDepth`.  Of a repeated field the first place and the
last value remain.  An object that begins with the key `carrierKey` stands for
another document: it carries the text of that document, which is read in its
place and has levels of its own.
-/

/-- How deep lists and objects may be nested. -/
def maxDepth : Nat := 127

/-- The key that an object which carries the text of a document begins with. -/
def carrierKey : String := "$serde_json::private::RawValue"

/-- The text that an object carries, if it begins with the key of a carrier.  Nothing is carried
where the value is no text, or where more fields follow. -/
def carried? {κ α : Type} [DecidableEq κ] (carrier : κ) (text? : α -> Option String) :
    List (κ × α) -> Option (Option String)
  | [] => none
  | (key, value) :: rest =>
      if key = carrier then some (if rest.isEmpty then text? value else none) else none

def Tree.text? : Tree -> Option String
  | .text s => s
  | _ => none

mutual

/-- The document of a tree with at most `depth` levels of lists and objects; `read` reads the texts
that are carried. -/
def Tree.toJson? (read : String -> Option Json) (depth : Nat) : Tree -> Option Json
  | .null => some .null
  | .bool b => some (.bool b)
  | .number n => n.map .number
  | .text s => s.map .text
  | .list items =>
      match depth with
      | 0 => none
      | depth + 1 => (Tree.itemsToJson? read depth items).map .list
  | .object fields =>
      match depth with
      | 0 => none
      | depth + 1 =>
          match carried? (some carrierKey) Tree.text? fields with
          | some carried => carried.bind read
          | none =>
              (Tree.fieldsToJson? read depth fields).map fun found =>
                .object (Ordered.ofList found).entries

def Tree.itemsToJson? (read : String -> Option Json) (depth : Nat) :
    List Tree -> Option (List Json)
  | [] => some []
  | item :: rest =>
      match Tree.toJson? read depth item, Tree.itemsToJson? read depth rest with
      | some found, some others => some (found :: others)
      | _, _ => none

/-- The fields of an object, repeated ones included. -/
def Tree.fieldsToJson? (read : String -> Option Json) (depth : Nat) :
    List (Option String × Tree) -> Option (List (String × Json))
  | [] => some []
  | (key, value) :: rest =>
      match key, Tree.toJson? read depth value, Tree.fieldsToJson? read depth rest with
      | some key, some found, some others => some ((key, found) :: others)
      | _, _, _ => none

end

/-- Read a document in which texts are carried in one another less than so many times. -/
def parseNested? : Nat -> String -> Option Json
  | 0, _ => none
  | carriers + 1, s => (Tree.parse? s).bind (Tree.toJson? (parseNested? carriers) maxDepth)

/-- Read a document.  What it carries is shorter than its text, so that the length of the text
bounds how often texts are carried in one another. -/
def parse? (s : String) : Option Json :=
  parseNested? (s.length + 1) s

end Json
end SqlGate
