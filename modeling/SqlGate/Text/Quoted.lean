namespace SqlGate
namespace Text

/-!
# Quoted SQL literals

A text stands in SQL between two single quotes, and a quote inside it is
written twice.  `Quoted.read` takes such a literal from the front of a text and
returns what it stands for together with what follows the closing quote.
-/

namespace Quoted

/-- The inside of a literal: each quote twice, every other character once. -/
def double : List Char -> List Char
  | [] => []
  | c :: rest => if c = '\'' then '\'' :: '\'' :: double rest else c :: double rest

/-- A text between quotes. -/
def write (cs : List Char) : List Char :=
  '\'' :: (double cs ++ ['\''])

/-- Read up to the quote that closes: two quotes stand for one. -/
def readInside : List Char -> Option (List Char × List Char)
  | [] => none
  | '\'' :: '\'' :: rest => (readInside rest).map fun found => ('\'' :: found.1, found.2)
  | c :: rest =>
      if c = '\'' then some ([], rest)
      else (readInside rest).map fun found => (c :: found.1, found.2)

/-- Read one literal from the front of a text. -/
def read : List Char -> Option (List Char × List Char)
  | '\'' :: rest => readInside rest
  | _ => none

end Quoted

/-- The SQL literal of a text. -/
def quoted (s : String) : String :=
  String.ofList (Quoted.write s.toList)

@[simp] theorem toList_quoted (s : String) : (quoted s).toList = Quoted.write s.toList := by
  simp [quoted]

end Text
end SqlGate
