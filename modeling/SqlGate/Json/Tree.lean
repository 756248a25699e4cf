import SqlGate.Json.Token

namespace SqlGate
namespace Json

/-!
# Documents as written

A tree holds a document the way it stands in the text: repeated fields are all
there, and a number or string without a value keeps its place.  The tokens are
read one after another by a machine with a stack of the lists and objects that
are still open, so that no depth of nesting is a difficulty here.
-/

/-- A document as it was written. -/
inductive Tree where
  | null
  | bool (value : Bool)
  | number (value : Option Numeral)
  | text (value : Option String)
  | list (items : List Tree)
  | object (fields : List (Option String × Tree))
deriving Inhabited

namespace Tree

/-- A list or object that is still open, with what was read of it, the last part first. -/
inductive Frame where
  | list (items : List Tree)
  | object (fields : List (Option String × Tree)) (key : Option String)

/-- What may come next. -/
inductive Expected where
  | value
  /-- The first item of a list, or its end. -/
  | item
  /-- A key of an object, or its end if nothing was read of it. -/
  | key (fields : List (Option String × Tree))
  /-- The colon behind a key. -/
  | colon (fields : List (Option String × Tree)) (key : Option String)
  /-- What follows a complete value. -/
  | after (value : Tree)

/-- The state between two tokens. -/
structure State where
  /-- The open lists and objects, the innermost first. -/
  stack : List Frame
  /-- What may come next. -/
  expected : Expected

def startValue (stack : List Frame) : Token -> Option State
  | .null => some ⟨stack, .after .null⟩
  | .bool b => some ⟨stack, .after (.bool b)⟩
  | .number n => some ⟨stack, .after (.number n)⟩
  | .text s => some ⟨stack, .after (.text s)⟩
  | .openList => some ⟨.list [] :: stack, .item⟩
  | .openObject => some ⟨stack, .key []⟩
  | _ => none

def step (state : State) (token : Token) : Option State :=
  match state.expected, state.stack, token with
  | .value, stack, token => startValue stack token
  | .item, .list _ :: stack, .closeList => some ⟨stack, .after (.list [])⟩
  | .item, stack, token => startValue stack token
  | .key fields, stack, .text key => some ⟨stack, .colon fields key⟩
  | .key [], stack, .closeObject => some ⟨stack, .after (.object [])⟩
  | .colon fields key, stack, .colon => some ⟨.object fields key :: stack, .value⟩
  | .after v, .list items :: stack, .comma => some ⟨.list (v :: items) :: stack, .value⟩
  | .after v, .list items :: stack, .closeList =>
      some ⟨stack, .after (.list (v :: items).reverse)⟩
  | .after v, .object fields key :: stack, .comma => some ⟨stack, .key ((key, v) :: fields)⟩
  | .after v, .object fields key :: stack, .closeObject =>
      some ⟨stack, .after (.object ((key, v) :: fields).reverse)⟩
  | _, _, _ => none

def run : State -> List Token -> Option State
  | state, [] => some state
  | state, token :: rest =>
      match step state token with
      | some next => run next rest
      | none => none

/-- The document of a list of tokens: one value and nothing else. -/
def ofTokens? (tokens : List Token) : Option Tree :=
  match run ⟨[], .value⟩ tokens with
  | some ⟨[], .after v⟩ => some v
  | _ => none

def parse? (s : String) : Option Tree :=
  (tokens? s.toList).bind ofTokens?

end Tree
end Json
end SqlGate
