import SqlGate.Embedded.Fault
import SqlGate.Embedded.Token

namespace SqlGate
namespace Embedded

/-!
# Reading tokens

A parser takes tokens from the front.  Where it cannot go on it names the token
that it stopped at, so the first token that fits no statement is the one that a
fault tells.
-/

abbrev Parser (α : Type) := StateT (List Token) (Except Fault) α

/-- The fault of tokens whose first one fits nowhere. -/
def stoppedAt : List Token -> Fault
  | [] => .incomplete
  | t :: _ =>
      match t.kind with
      | .illegal => .unrecognized t.text
      | .finish => .incomplete
      | _ => .unexpected t.text

namespace Parser

/-- Stop at the next token. -/
def stop {α : Type} : Parser α :=
  fun tokens => .error (stoppedAt tokens)

def peek : Parser Token :=
  fun tokens => .ok (tokens.headD ⟨.finish, "", ""⟩, tokens)

def advance : Parser Unit :=
  fun tokens => .ok ((), tokens.drop 1)

def isKeyword (word : String) (t : Token) : Bool :=
  t.kind == .word && Text.sameIgnoringCase t.text word

def isSign (text : String) (t : Token) : Bool :=
  t.kind == .sign && t.text == text

/-- Pass over the next token if it satisfies a condition, and tell whether it did. -/
def accept (p : Token -> Bool) : Parser Bool := do
  if p (<- peek) then
    advance
    return true
  else return false

def keyword? (word : String) : Parser Bool := accept (isKeyword word)

/-- Pass over a keyword, which has to come next. -/
def keyword (word : String) : Parser Unit := do
  unless <- keyword? word do stop

/-- Pass over keywords, which have to come next. -/
def keywords (words : List String) : Parser Unit :=
  words.forM keyword

def sign? (text : String) : Parser Bool := accept (isSign text)

/-- Pass over a sign, which has to come next. -/
def sign (text : String) : Parser Unit := do
  unless <- sign? text do stop

/-- What a parser reads, with its source. -/
def withSource {α : Type} (p : Parser α) : Parser (α × String) :=
  fun tokens => do
    let (a, rest) <- p tokens
    return ((a, sourceOf (tokens.take (tokens.length - rest.length))), rest)

/-- One thing, or several with commas between them. -/
def commaList {α : Type} (item : Parser α) : Nat -> Parser (List α)
  | 0 => stop
  | fuel + 1 => do
      let first <- item
      if <- sign? "," then return first :: (<- commaList item fuel)
      else return [first]

/-- A number of steps that no loop over the tokens left can exceed. -/
def budget : Parser Nat :=
  fun tokens => .ok (4 * tokens.length + 8, tokens)

def bracketed {α : Type} (p : Parser α) : Parser α := do
  sign "("
  let a <- p
  sign ")"
  return a

/-! ## Names -/

/-- The keywords that are no names. -/
def reserved : List String :=
  ["ADD", "ALL", "ALTER", "AND", "AS", "AUTOINCREMENT", "BETWEEN", "CASE", "CHECK", "COLLATE",
    "COMMIT", "CONSTRAINT", "CREATE", "DEFAULT", "DEFERRABLE", "DELETE", "DISTINCT", "DROP",
    "ELSE", "ESCAPE", "EXCEPT", "EXISTS", "FOREIGN", "FROM", "GROUP", "HAVING", "IN", "INDEX",
    "INSERT", "INTERSECT", "INTO", "IS", "ISNULL", "JOIN", "LIMIT", "NOT", "NOTHING", "NOTNULL",
    "NULL", "ON", "OR", "ORDER", "PRIMARY", "REFERENCES", "RETURNING", "SELECT", "SET", "TABLE",
    "THEN", "TO", "TRANSACTION", "UNION", "UNIQUE", "UPDATE", "USING", "VALUES", "WHEN", "WHERE"]

/-- The keywords that are names except where they would name what precedes them. -/
def joinWords : List String :=
  ["CROSS", "FULL", "INDEXED", "INNER", "LEFT", "NATURAL", "OUTER", "RIGHT"]

/-- The name that a token stands for, if it is one. -/
def nameOf? (t : Token) : Option String :=
  match t.kind with
  | .word => if reserved.contains (Text.upper t.text) then none else some t.text
  | .name value _ => some value
  | .string value => some value
  | _ => none

/-- The name that a token stands for behind what it names. -/
def trailingNameOf? (t : Token) : Option String :=
  if t.kind == .word && joinWords.contains (Text.upper t.text) then none else nameOf? t

def name : Parser String := do
  match nameOf? (<- peek) with
  | some found =>
      advance
      return found
  | none => stop

/-- A name of a table, with the name of a database in front of it where one is given. -/
def qualifiedName : Parser String := do
  let first <- name
  if <- sign? "." then return first ++ "." ++ (<- name)
  else return first

/-- The name given to something, behind `AS` or directly. -/
def alias? : Parser (Option String) := do
  if <- keyword? "AS" then return some (<- name)
  else
    match trailingNameOf? (<- peek) with
    | some found =>
        advance
        return some found
    | none => return none

end Parser
end Embedded
end SqlGate
