import SqlGate.Bytes.Hex
import SqlGate.Json.Numeral
import SqlGate.Number.Reading

namespace SqlGate
namespace Json

/-!
# Tokens of JSON texts

A text is cut into punctuation, words, numbers and strings; blanks, tabs and
line ends between them are dropped.  A number beyond the doubles and a string
with half a surrogate pair are well-formed tokens without a value: they may
stand where a reader passes over them.
-/

/-- A token of a JSON text. -/
inductive Token where
  | openList
  | closeList
  | openObject
  | closeObject
  | comma
  | colon
  | null
  | bool (value : Bool)
  | number (value : Option Numeral)
  | text (value : Option String)
deriving DecidableEq

/-! ## Strings -/

/-- A character of a string, or the code unit that an escape names. -/
inductive Piece where
  | character (c : Char)
  | unit (code : Nat)

/-- The character that a short escape stands for. -/
def shortEscape? : Char -> Option Char
  | '"' => some '"'
  | '\\' => some '\\'
  | '/' => some '/'
  | 'b' => some '\x08'
  | 'f' => some '\x0c'
  | 'n' => some '\n'
  | 'r' => some '\r'
  | 't' => some '\t'
  | _ => none

/-- Read the inside of a string up to the closing quote. -/
def readPieces : List Char -> Option (List Piece × List Char)
  | [] => none
  | '\\' :: 'u' :: a :: b :: c :: d :: rest =>
      match Bytes.Hex.natFrom? 0 [a, b, c, d], readPieces rest with
      | some code, some found => some (.unit code :: found.1, found.2)
      | _, _ => none
  | '\\' :: e :: rest =>
      match shortEscape? e, readPieces rest with
      | some c, some found => some (.character c :: found.1, found.2)
      | _, _ => none
  | c :: rest =>
      if c = '"' then some ([], rest)
      else if c = '\\' || c.toNat < 0x20 then none
      else (readPieces rest).map fun found => (.character c :: found.1, found.2)

/-- A code unit that opens a surrogate pair. -/
def isLeading (code : Nat) : Bool :=
  0xD800 ≤ code && code ≤ 0xDBFF

/-- A code unit that closes a surrogate pair. -/
def isTrailing (code : Nat) : Bool :=
  0xDC00 ≤ code && code ≤ 0xDFFF

/-- The characters of a string; half a surrogate pair is none. -/
def joinPieces : List Piece -> Option (List Char)
  | [] => some []
  | .character c :: rest => (joinPieces rest).map (c :: ·)
  | .unit high :: .unit low :: rest =>
      if isLeading high then
        if isTrailing low then
          (joinPieces rest).map
            (Char.ofNat (0x10000 + (high - 0xD800) * 0x400 + (low - 0xDC00)) :: ·)
        else none
      else if isTrailing high then none
      else (joinPieces (.unit low :: rest)).map (Char.ofNat high :: ·)
  | .unit code :: rest =>
      if isLeading code || isTrailing code then none
      else (joinPieces rest).map (Char.ofNat code :: ·)

/-! ## Numbers -/

def readBehind : List Char -> Option (Option (List Char) × List Char)
  | '.' :: rest =>
      let digits := rest.takeWhile Char.isDigit
      if digits.isEmpty then none else some (some digits, rest.dropWhile Char.isDigit)
  | cs => some (none, cs)

/-- The exponent: a letter, perhaps a sign, and at least one digit. -/
def readExponent : List Char -> Option (Option Int × List Char)
  | [] => some (none, [])
  | c :: rest =>
      if c = 'e' || c = 'E' then
        (Number.takeExponent (c :: rest)).map fun found => (some found.1, found.2)
      else some (none, c :: rest)

/-- A number after its sign; a zero in front stands alone. -/
def readNumber (negative : Bool) (cs : List Char) : Option (Literal × List Char) :=
  let front := cs.takeWhile Char.isDigit
  if front.isEmpty || (front.head? == some '0' && front.length != 1) then none
  else
    match readBehind (cs.dropWhile Char.isDigit) with
    | none => none
    | some (behind, rest) =>
        (readExponent rest).map fun found => (⟨negative, front, behind, found.1⟩, found.2)

/-! ## Cutting -/

/-- What stands between tokens. -/
def isSpace (c : Char) : Bool :=
  c == ' ' || c == '\t' || c == '\n' || c == '\r'

/-- Drop a given beginning. -/
def dropWord (word cs : List Char) : Option (List Char) :=
  if word.isPrefixOf cs then some (cs.drop word.length) else none

/-- The token that begins with `c`, and what follows it. -/
def readToken (c : Char) (rest : List Char) : Option (Token × List Char) :=
  if c = '[' then some (.openList, rest)
  else if c = ']' then some (.closeList, rest)
  else if c = '\x7b' then some (.openObject, rest)
  else if c = '\x7d' then some (.closeObject, rest)
  else if c = ',' then some (.comma, rest)
  else if c = ':' then some (.colon, rest)
  else if c = '"' then
    (readPieces rest).map fun found => (.text ((joinPieces found.1).map String.ofList), found.2)
  else if c = 'n' then (dropWord ['u', 'l', 'l'] rest).map fun rest => (.null, rest)
  else if c = 't' then (dropWord ['r', 'u', 'e'] rest).map fun rest => (.bool true, rest)
  else if c = 'f' then (dropWord ['a', 'l', 's', 'e'] rest).map fun rest => (.bool false, rest)
  else if c = '-' then
    (readNumber true rest).map fun found => (.number found.1.value?, found.2)
  else if c.isDigit then
    (readNumber false (c :: rest)).map fun found => (.number found.1.value?, found.2)
  else none

/-- Cut a text into tokens; the fuel bounds their number. -/
def readTokens : Nat -> List Char -> Option (List Token)
  | _, [] => some []
  | 0, _ :: _ => none
  | fuel + 1, c :: rest =>
      if isSpace c then readTokens fuel rest
      else
        match readToken c rest with
        | some (token, rest') => (readTokens fuel rest').map (token :: ·)
        | none => none

/-- The tokens of a text; a text has no more of them than characters. -/
def tokens? (cs : List Char) : Option (List Token) :=
  readTokens cs.length cs

end Json
end SqlGate
