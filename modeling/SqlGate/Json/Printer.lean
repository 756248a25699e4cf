import SqlGate.Bytes.Hex
import SqlGate.Json.Numeral

namespace SqlGate
namespace Json

/-!
# Writing documents

The compact form has no blanks.  The wide form puts every item on a line of its
own, indented by two blanks for each level, and leaves empty lists and objects
on one line.  Of a string only quotes, backslashes and the controls below U+0020
are escaped.
-/

/-- A character of a string as it is written. -/
def escape (c : Char) : List Char :=
  if c = '"' then ['\\', '"']
  else if c = '\\' then ['\\', '\\']
  else if c = '\x08' then ['\\', 'b']
  else if c = '\t' then ['\\', 't']
  else if c = '\n' then ['\\', 'n']
  else if c = '\x0c' then ['\\', 'f']
  else if c = '\r' then ['\\', 'r']
  else if c.toNat < 0x20 then
    ['\\', 'u', '0', '0', Bytes.Hex.lowerDigit (c.toNat / 16), Bytes.Hex.lowerDigit (c.toNat % 16)]
  else [c]

def writeString (s : String) : List Char :=
  '"' :: (s.toList.flatMap escape ++ ['"'])

def writeBool (b : Bool) : List Char :=
  if b then ['t', 'r', 'u', 'e'] else ['f', 'a', 'l', 's', 'e']

/-! ## The compact form -/

mutual

def write : Json -> List Char
  | .null => ['n', 'u', 'l', 'l']
  | .bool b => writeBool b
  | .number n => n.write
  | .text s => writeString s
  | .list items => '[' :: (writeItems items ++ [']'])
  | .object fields => '\x7b' :: (writeFields fields ++ ['\x7d'])

/-- The items of a list with commas between them. -/
def writeItems : List Json -> List Char
  | [] => []
  | [item] => write item
  | item :: rest => write item ++ ',' :: writeItems rest

/-- The fields of an object with commas between them. -/
def writeFields : List (String × Json) -> List Char
  | [] => []
  | [(key, value)] => writeString key ++ ':' :: write value
  | (key, value) :: rest => writeString key ++ ':' :: (write value ++ ',' :: writeFields rest)

end

def compact (document : Json) : String :=
  String.ofList document.write

/-! ## The wide form -/

/-- The beginning of a line at a level. -/
def newLine (level : Nat) : List Char :=
  '\n' :: List.replicate (2 * level) ' '

mutual

/-- The characters of the wide form, for a value that begins at a level. -/
def writeWide (level : Nat) : Json -> List Char
  | .null => ['n', 'u', 'l', 'l']
  | .bool b => writeBool b
  | .number n => n.write
  | .text s => writeString s
  | .list [] => ['[', ']']
  | .list (item :: rest) =>
      '[' :: (writeWideItems (level + 1) (item :: rest) ++ newLine level ++ [']'])
  | .object [] => ['\x7b', '\x7d']
  | .object (field :: rest) =>
      '\x7b' :: (writeWideFields (level + 1) (field :: rest) ++ newLine level ++ ['\x7d'])

def writeWideItems (level : Nat) : List Json -> List Char
  | [] => []
  | [item] => newLine level ++ writeWide level item
  | item :: rest => newLine level ++ writeWide level item ++ ',' :: writeWideItems level rest

def writeWideFields (level : Nat) : List (String × Json) -> List Char
  | [] => []
  | [(key, value)] => newLine level ++ writeString key ++ ':' :: ' ' :: writeWide level value
  | (key, value) :: rest =>
      newLine level ++ writeString key ++ ':' :: ' ' :: (writeWide level value
        ++ ',' :: writeWideFields level rest)

end

def wide (document : Json) : String :=
  String.ofList (writeWide 0 document)

end Json
end SqlGate
