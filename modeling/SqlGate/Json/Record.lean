import SqlGate.Json.Tree

namespace SqlGate
namespace Json

/-!
# Records as documents

A record is written as an object, and read from an object or from the list of
its values in order.  In an object a field of the record may stand only once,
in any place; what is not a field of the record is passed over, whatever it is.
-/

/-- The parts of a record found in a document. -/
structure Record where
  /-- Whether the record was given as a list. -/
  positional : Bool
  /-- The fields found. -/
  fields : List (String × Tree)

namespace Tree

def string? : Tree -> Option String
  | .text s => s
  | _ => none

def truth? : Tree -> Option Bool
  | .bool b => some b
  | _ => none

/-- A whole number below `2 ^ width`. -/
def unsigned? (width : Nat) : Tree -> Option Nat
  | .number (some (.whole n _)) =>
      if 0 ≤ n && n < Int.ofNat (Nat.pow 2 width) then some n.toNat else none
  | _ => none

/-- Null, or what `read` accepts. -/
def nullable {α : Type} (read : Tree -> Option α) : Tree -> Option (Option α)
  | .null => some none
  | tree => (read tree).map some

def listOf {α : Type} (read : Tree -> Option α) : Tree -> Option (List α)
  | .list items => items.mapM read
  | _ => none

/-- A choice: its name, or an object with the name for a field that is null. -/
def choiceName? : Tree -> Option String
  | .text s => s
  | .object [(key, .null)] => key
  | _ => none

end Tree

namespace Record

/-- The fields of an object that are named, unless one of them is repeated. -/
def knownFields? (names : List String) (fields : List (Option String × Tree)) :
    Option (List (String × Tree)) :=
  match fields.mapM fun field => field.1.map fun key => (key, field.2) with
  | none => none
  | some fields =>
      let known := fields.filter fun field => names.contains field.1
      if (known.map Prod.fst).Nodup then some known else none

/-- The record with the given field names that a tree holds. -/
def ofTree? (names : List String) : Tree -> Option Record
  | .list items =>
      if items.length ≤ names.length then some ⟨true, names.zip items⟩ else none
  | .object fields => (knownFields? names fields).map fun known => ⟨false, known⟩
  | _ => none

def field? (record : Record) (name : String) : Option Tree :=
  record.fields.lookup name

/-- A field that must be there. -/
def required {α : Type} (record : Record) (name : String) (read : Tree -> Option α) :
    Option α :=
  (record.field? name).bind read

/-- A field that has a value when it is not there. -/
def defaulted {α : Type} (record : Record) (name : String) (absent : α)
    (read : Tree -> Option α) : Option α :=
  match record.field? name with
  | none => some absent
  | some tree => read tree

/-- A field that may be null, and in an object may also be absent. -/
def optional {α : Type} (record : Record) (name : String) (read : Tree -> Option α) :
    Option (Option α) :=
  match record.field? name with
  | none => if record.positional then none else some none
  | some tree => Tree.nullable read tree

end Record

def ofText? (s : Option String) : Json :=
  orNull (s.map .text)

end Json
end SqlGate
