import SqlGate.Bytes.Hex
import SqlGate.Number.Reading
import SqlGate.Text.Case

namespace SqlGate
namespace Embedded

/-!
# Words of a statement

A text is cut into lexemes without a gap.  Blanks and comments are lexemes too;
they are then kept in front of the token that follows them, so that the source
of a run of tokens is its tokens with what stands between them.  A character
that begins nothing is a token of its own, which no statement accepts.
-/

/-- What a lexeme is. -/
inductive LexemeKind where
  | blank
  | word
  | quotedName
  | string
  | number
  | blob
  | parameter
  | sign
  | illegal
deriving DecidableEq, Repr

def isWordChar (c : Char) : Bool :=
  c.isAlphanum || c = '_' || c = '$' || 0x80 ≤ c.toNat

/-- Whether a character begins a blank. -/
def isBlankStart (c : Char) : Bool :=
  c = ' ' || c = '\t' || c = '\n' || c = '\x0c' || c = '\r'

/-- Whether a character continues a blank. -/
def isBlankChar (c : Char) : Bool :=
  isBlankStart c || c = '\x0b'

/-- How many characters at the front have a property. -/
def runLength (p : Char -> Bool) (cs : List Char) : Nat :=
  (cs.takeWhile p).length

/-- How many characters a quoted text takes behind its first quote; a quote inside is doubled. -/
def closingQuote? (quote : Char) : List Char -> Option Nat
  | [] => none
  | [c] => if c = quote then some 1 else none
  | c :: d :: rest =>
      if c = quote then
        if d = quote then (closingQuote? quote rest).map (· + 2) else some 1
      else (closingQuote? quote (d :: rest)).map (· + 1)

/-- How many characters a comment takes behind `/*`; it may stay open to the end. -/
def commentLength : List Char -> Nat
  | [] => 0
  | [_] => 1
  | c :: d :: rest => if c = '*' ∧ d = '/' then 2 else commentLength (d :: rest) + 1

/-- The extent of a text between quotes; one that is not closed is no token. -/
def quotedExtent (kind : LexemeKind) (quote : Char) (rest : List Char) : LexemeKind × Nat :=
  match closingQuote? quote rest with
  | some n => (kind, n)
  | none => (.illegal, rest.length)

/-- The extent of a number; characters of a word must not follow it. -/
def numberExtent (c : Char) (rest : List Char) : LexemeKind × Nat :=
  match Number.longestNumber (c :: rest) with
  | some found =>
      let n := rest.length - found.rest.length
      let more := runLength isWordChar found.rest
      (if more = 0 then .number else .illegal, n + more)
  | none => (.sign, 0)

/-- The extent of a blob, behind its letter: an even count of digits between quotes. -/
def blobExtent (rest : List Char) : LexemeKind × Nat :=
  let digits := runLength (fun c => (Bytes.Hex.digitValue? c).isSome) (rest.drop 1)
  if (rest.drop (digits + 1)).head? = some '\'' ∧ digits % 2 = 0 then (.blob, digits + 2)
  else
    let before := runLength (· != '\'') (rest.drop 1)
    (.illegal, min rest.length (before + 2))

/-- How many characters the name of a parameter takes; a pair of colons may stand inside. -/
def parameterLength : List Char -> Nat
  | [] => 0
  | [c] => if isWordChar c then 1 else 0
  | c :: d :: rest =>
      if isWordChar c then parameterLength (d :: rest) + 1
      else if c = ':' ∧ d = ':' then parameterLength rest + 2
      else 0

/-- The extent of a parameter that has a name. -/
def namedExtent (rest : List Char) : LexemeKind × Nat :=
  let n := parameterLength rest
  (if (rest.take n).any isWordChar then .parameter else .illegal, n)

def doubleSigns : List (Char × Char) :=
  [('<', '='), ('<', '>'), ('<', '<'), ('>', '='), ('>', '>'), ('=', '='), ('!', '='),
    ('|', '|'), ('-', '>')]

def singleSigns : List Char :=
  ['(', ')', ';', '+', '-', '*', '/', '%', '=', '<', '>', '|', ',', '&', '~', '.']

def signExtent (c : Char) (rest : List Char) : LexemeKind × Nat :=
  match rest with
  | d :: _ =>
      if doubleSigns.contains (c, d) then (.sign, 1)
      else (if singleSigns.contains c then .sign else .illegal, 0)
  | [] => (if singleSigns.contains c then .sign else .illegal, 0)

/-- The lexeme that begins with `c`: its kind and how many of the other characters it takes. -/
def extent (c : Char) (rest : List Char) : LexemeKind × Nat :=
  if isBlankStart c then (.blank, runLength isBlankChar rest)
  else if c = '-' ∧ rest.head? = some '-' then (.blank, runLength (· != '\n') rest)
  else if c = '/' ∧ rest.head? = some '*' ∧ 2 ≤ rest.length then
    (.blank, commentLength (rest.drop 1) + 1)
  else if c = '\'' then quotedExtent .string c rest
  else if c = '"' ∨ c = '\x60' then quotedExtent .quotedName c rest
  else if c = '[' then
    let n := runLength (· != ']') rest
    if n < rest.length then (.quotedName, n + 1) else (.illegal, rest.length)
  else if c.isDigit ∨ (c = '.' ∧ (rest.head?.map Char.isDigit) = some true) then
    numberExtent c rest
  else if c = '?' then (.parameter, runLength Char.isDigit rest)
  else if c = '$' ∨ c = '@' ∨ c = '#' ∨ c = ':' then namedExtent rest
  else if (c = 'x' ∨ c = 'X') ∧ rest.head? = some '\'' then blobExtent rest
  else if isWordChar c then (.word, runLength isWordChar rest)
  else signExtent c rest

def lexemes : List Char -> List (LexemeKind × List Char)
  | [] => []
  | c :: rest =>
      ((extent c rest).1, c :: rest.take (extent c rest).2)
        :: lexemes (rest.drop (extent c rest).2)
termination_by cs => cs.length
decreasing_by
  simp only [List.length_drop, List.length_cons]
  omega

/-! ## Tokens -/

/-- What a token is. -/
inductive TokenKind where
  /-- A keyword or a plain name. -/
  | word
  /-- A name between quotes, which may be double ones. -/
  | name (value : String) (double : Bool)
  /-- A text. -/
  | string (value : String)
  | number
  /-- Bytes. -/
  | blob (bytes : List UInt8)
  /-- A parameter, by the place of its value. -/
  | parameter (place : Nat)
  /-- An operator, a bracket, a comma, a point or a semicolon. -/
  | sign
  /-- What begins nothing. -/
  | illegal
  /-- The end of the text. -/
  | finish
deriving DecidableEq, Repr

/-- A token with what stands in front of it. -/
structure Token where
  kind : TokenKind
  /-- Its characters. -/
  text : String
  /-- The blanks and comments in front of it. -/
  blanks : String := ""
deriving DecidableEq, Repr

/-- Take a quote off both ends and each doubled one inside. -/
def unquote (quote : Char) (cs : List Char) : String :=
  let rec undouble : List Char -> List Char
    | [] => []
    | [c] => [c]
    | c :: d :: rest =>
        if c = quote ∧ d = quote then c :: undouble rest else c :: undouble (d :: rest)
  String.ofList (undouble ((cs.drop 1).dropLast))

/-! ## Parameters -/

/-- The parameters met so far: the place of each with its name, if it has one. -/
abbrev ParameterNames := List (Nat × String)

/-- The greatest place of a parameter. -/
def ParameterNames.count (names : ParameterNames) : Nat :=
  names.foldl (fun n entry => max n entry.1) 0

/-- The place of a parameter: a number of its own, the place of its name, or the next one. -/
def ParameterNames.placeOf (names : ParameterNames) (text : String) : Nat × ParameterNames :=
  let next := names.count + 1
  match text.toList with
  | ['?'] => (next, names ++ [(next, "")])
  | '?' :: digits =>
      let place := Number.digitsValue digits
      (place, if names.any (·.1 == place) then names else names ++ [(place, text)])
  | _ =>
      match names.find? (·.2 == text) with
      | some entry => (entry.1, names)
      | none => (next, names ++ [(next, text)])

/-- The token of a lexeme that is not a blank. -/
def tokenKind (names : ParameterNames) (kind : LexemeKind) (cs : List Char) :
    TokenKind × ParameterNames :=
  match kind with
  | .word => (.word, names)
  | .quotedName =>
      let quote := cs.headD '"'
      (.name (unquote quote cs) (quote = '"'), names)
  | .string => (.string (unquote '\'' cs), names)
  | .number => (.number, names)
  | .blob => (.blob ((Bytes.Hex.decode? ((cs.drop 2).dropLast)).getD []), names)
  | .parameter =>
      let placed := names.placeOf (String.ofList cs)
      (.parameter placed.1, placed.2)
  | .sign => (.sign, names)
  | .blank | .illegal => (.illegal, names)

/-- The tokens of lexemes, the end of the text as the last one. -/
def tokensFrom (names : ParameterNames) (blanks : List Char) :
    List (LexemeKind × List Char) -> List Token × ParameterNames
  | [] => ([⟨.finish, "", String.ofList blanks⟩], names)
  | (.blank, cs) :: rest => tokensFrom names (blanks ++ cs) rest
  | (kind, cs) :: rest =>
      let found := tokenKind names kind cs
      let others := tokensFrom found.2 [] rest
      (⟨found.1, String.ofList cs, String.ofList blanks⟩ :: others.1, others.2)

/-- The texts of the statements of a text, which end at semicolons, as runs of lexemes. -/
def statementLexemes : List (LexemeKind × List Char) -> List (List (LexemeKind × List Char))
  | [] => []
  | lexeme :: rest =>
      if lexeme = (.sign, [';']) then [lexeme] :: statementLexemes rest
      else
        match statementLexemes rest with
        | [] => [[lexeme]]
        | first :: others => (lexeme :: first) :: others

/-- The source of a run of tokens: the tokens and what stands between them. -/
def sourceOf : List Token -> String
  | [] => ""
  | first :: rest =>
      rest.foldl (fun source t => source ++ t.blanks ++ t.text) first.text

def dropTrailingBlanks (s : String) : String :=
  String.ofList (s.toList.reverse.dropWhile isBlankChar).reverse

end Embedded
end SqlGate
