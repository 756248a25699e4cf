import Mathlib.Data.List.TakeWhile
import SqlGate.Embedded.Token
import SqlGate.Proofs.Text.Digits
import SqlGate.Query.Template

namespace SqlGate
namespace Embedded

/-!
# The words of statements that are written in pieces

A statement is cut into lexemes from the left, and where one of them ends can
depend on what follows.  A piece of a statement keeps its lexemes, whatever stands
behind it, if nothing behind can be added to its last one: a name, a number or a
parameter needs a break behind it, a blank something that is no blank, and a
bracket or a comma needs nothing.

The grammar of statements does not look at lexemes but at terminals, which leave
out the blanks and, of names, numbers and parameters, what they are.
-/

/-! ## Terminals -/

def plainKeywords : List String :=
  ["AND", "AS", "ASC", "BY", "DELETE", "DESC", "FROM", "FULL", "GROUP", "HAVING", "IN", "INNER",
    "INSERT", "INTO", "IS", "JOIN", "LEFT", "LIKE", "LIMIT", "NOT", "NULL", "OFFSET", "ON", "OR",
    "ORDER", "RIGHT", "SELECT", "SET", "UPDATE", "VALUES", "WHERE"]

/-- The keywords that plain statements do not have. -/
def otherKeywords : List String :=
  ["ABORT", "ACTION", "ADD", "AFTER", "ALL", "ALTER", "ALWAYS", "ANALYZE", "ATTACH",
    "AUTOINCREMENT", "BEFORE", "BEGIN", "BETWEEN", "CASCADE", "CASE", "CAST", "CHECK", "COLLATE",
    "COLUMN", "COMMIT", "CONFLICT", "CONSTRAINT", "CREATE", "CROSS", "CURRENT", "CURRENT_DATE",
    "CURRENT_TIME", "CURRENT_TIMESTAMP", "DATABASE", "DEFAULT", "DEFERRABLE", "DEFERRED",
    "DETACH", "DISTINCT", "DO", "DROP", "EACH", "ELSE", "END", "ESCAPE", "EXCEPT", "EXCLUDE",
    "EXCLUSIVE", "EXISTS", "EXPLAIN", "FAIL", "FILTER", "FIRST", "FOLLOWING", "FOR", "FOREIGN",
    "GENERATED", "GLOB", "GROUPS", "IF", "IGNORE", "IMMEDIATE", "INDEX", "INDEXED", "INITIALLY",
    "INSTEAD", "INTERSECT", "ISNULL", "KEY", "LAST", "MATCH", "MATERIALIZED", "NATURAL", "NO",
    "NOTHING", "NOTNULL", "NULLS", "OF", "OTHERS", "OUTER", "OVER", "PARTITION", "PLAN",
    "PRAGMA", "PRECEDING", "PRIMARY", "QUERY", "RAISE", "RANGE", "RECURSIVE", "REFERENCES",
    "REGEXP", "REINDEX", "RELEASE", "RENAME", "REPLACE", "RESTRICT", "RETURNING", "ROLLBACK",
    "ROW", "ROWS", "SAVEPOINT", "TABLE", "TEMP", "TEMPORARY", "THEN", "TIES", "TO",
    "TRANSACTION", "TRIGGER", "UNBOUNDED", "UNION", "UNIQUE", "USING", "VACUUM", "VIEW",
    "VIRTUAL", "WHEN", "WINDOW", "WITH", "WITHOUT"]

def keywords : List String :=
  plainKeywords ++ otherKeywords

/-- What the grammar sees of a lexeme. -/
inductive Terminal where
  /-- A keyword, in capitals. -/
  | keyword (word : String)
  /-- A word that is no keyword. -/
  | name
  | number
  | parameter
  | sign (text : String)
  /-- A lexeme of a kind that plain statements do not have. -/
  | other
deriving DecidableEq, Repr

def Terminal.ofWord (word : String) : Terminal :=
  if keywords.contains (Text.upper word) then .keyword (Text.upper word) else .name

/-- The terminal of a lexeme, if it is no blank. -/
def Terminal.ofLexeme? : LexemeKind × List Char -> Option Terminal
  | (.blank, _) => none
  | (.word, cs) => some (.ofWord (String.ofList cs))
  | (.number, _) => some .number
  | (.parameter, _) => some .parameter
  | (.sign, cs) => some (.sign (String.ofList cs))
  | (_, _) => some .other

def terminals (cs : List Char) : List Terminal :=
  (lexemes cs).filterMap Terminal.ofLexeme?

/-! ## What a lexeme takes -/

def isWordStart (c : Char) : Bool :=
  isWordChar c && !c.isDigit && c != '$'

/-- Nothing, or a blank, a comma or a bracket. -/
def Breaks (behind : List Char) : Prop :=
  ∀ c ∈ behind.head?, [' ', ',', '(', ')'].contains c = true

/-- Nothing, or no blank. -/
def Solid (behind : List Char) : Prop :=
  ∀ c ∈ behind.head?, isBlankChar c = false

variable {c : Char} {cs rest : List Char}

theorem isWordChar_of_isWordStart (start : isWordStart c = true) : isWordChar c = true := by
  simp only [isWordStart, Bool.and_eq_true] at start
  exact start.1.1

theorem isWordChar_of_isDigit (digit : c.isDigit = true) : isWordChar c = true := by
  simp [isWordChar, Char.isAlphanum, digit]

theorem isBlankChar_of_isWordChar (inWord : isWordChar c = true) : isBlankChar c = false := by
  refine Bool.eq_false_iff.mpr fun blank => ?_
  simp only [isBlankChar, isBlankStart, Bool.or_eq_true, decide_eq_true_eq] at blank
  rcases blank with ((((rfl | rfl) | rfl) | rfl) | rfl) | rfl <;> exact absurd inWord (by decide)

/-- A property that no break has ends at a break. -/
theorem Breaks.ends (breaks : Breaks rest) {p : Char -> Bool}
    (outside : [' ', ',', '(', ')'].any p = false) : ∀ c ∈ rest.head?, p c = false := by
  intro c first
  have member := List.contains_iff_mem.mp (breaks c first)
  exact Bool.eq_false_iff.mpr (List.any_eq_false.mp outside c member)

/-- A run is not longer in front of what does not continue it. -/
theorem runLength_append {p : Char -> Bool}
    (ended : (∀ c ∈ cs, p c = true) -> ∀ c ∈ rest.head?, p c = false) :
    runLength p (cs ++ rest) = runLength p cs := by
  induction cs with
  | nil =>
      have ended := ended fun _ member => absurd member List.not_mem_nil
      cases rest with
      | nil => rfl
      | cons d more => simp [runLength, ended d rfl]
  | cons c cs ih =>
      by_cases inside : p c = true
      · have behind := ih fun whole => ended (List.forall_mem_cons.mpr ⟨inside, whole⟩)
        simpa [runLength, inside] using behind
      · simp [runLength, inside]

theorem runLength_of_forall {p : Char -> Bool} (inside : ∀ c ∈ cs, p c = true) :
    runLength p cs = cs.length := by
  rw [runLength, List.takeWhile_eq_self_iff.mpr inside]

theorem runLength_le (p : Char -> Bool) (cs : List Char) : runLength p cs ≤ cs.length :=
  (List.takeWhile_sublist p).length_le

theorem lexemes_cons (c : Char) (rest : List Char) :
    lexemes (c :: rest) = ((extent c rest).1, c :: rest.take (extent c rest).2)
      :: lexemes (rest.drop (extent c rest).2) := by
  rw [lexemes]

/-- A lexeme that takes what is named. -/
theorem lexemes_of_extent {kind : LexemeKind}
    (takes : extent c (cs ++ rest) = (kind, cs.length)) :
    lexemes (c :: (cs ++ rest)) = (kind, c :: cs) :: lexemes rest := by
  rw [lexemes_cons, takes, List.take_left, List.drop_left]

theorem extent_word (start : isWordStart c = true) (noQuote : ∀ d ∈ rest.head?, d ≠ '\'') :
    extent c rest = (.word, runLength isWordChar rest) := by
  simp only [isWordStart, Bool.and_eq_true, Bool.not_eq_true', bne_iff_ne] at start
  obtain ⟨⟨inWord, noDigit⟩, noDollar⟩ := start
  have differs : ∀ d : Char, isWordChar d = false -> c ≠ d := by
    rintro d outside rfl
    rw [inWord] at outside
    cases outside
  have noBlank : isBlankStart c = false := by
    simp [isBlankStart, differs ' ' (by decide), differs '\t' (by decide),
      differs '\n' (by decide), differs '\x0c' (by decide), differs '\r' (by decide)]
  have noBlob : rest.head? ≠ some '\'' := fun quote => noQuote '\'' quote rfl
  unfold extent
  simp [noBlank, differs '-' (by decide), differs '/' (by decide), differs '\'' (by decide),
    differs '"' (by decide), differs '\x60' (by decide), differs '[' (by decide), noDigit,
    differs '.' (by decide), differs '?' (by decide), noDollar, differs '@' (by decide),
    differs '#' (by decide), differs ':' (by decide), noBlob, inWord]

/-- A word is a lexeme in front of a break. -/
theorem lexemes_word (start : isWordStart c = true) (inside : ∀ d ∈ cs, isWordChar d = true)
    (breaks : Breaks rest) :
    lexemes (c :: (cs ++ rest)) = (.word, c :: cs) :: lexemes rest := by
  refine lexemes_of_extent ?_
  have ended := breaks.ends (p := isWordChar) (by decide)
  rw [extent_word start, runLength_append fun _ => ended, runLength_of_forall inside]
  intro d first
  rintro rfl
  cases cs with
  | nil => exact absurd (breaks.ends (p := (· == '\'')) (by decide) _ first) (by decide)
  | cons e more =>
      cases first
      exact absurd (inside '\'' List.mem_cons_self) (by decide)

theorem parameterLength_append (inside : ∀ d ∈ cs, isWordChar d = true) (breaks : Breaks rest) :
    parameterLength (cs ++ rest) = cs.length := by
  have ended := breaks.ends (p := isWordChar) (by decide)
  have noColon := breaks.ends (p := (· == ':')) (by decide)
  induction cs with
  | nil =>
      rcases rest with _ | ⟨d, _ | ⟨e, more⟩⟩
      · rfl
      · simp [parameterLength, ended d rfl]
      · have other : d ≠ ':' := by simpa using noColon d rfl
        simp [parameterLength, ended d rfl, other]
  | cons d cs ih =>
      have here := inside d List.mem_cons_self
      have behind := ih fun e member => inside e (List.mem_cons_of_mem d member)
      rw [List.cons_append]
      cases front : cs ++ rest with
      | nil =>
          rw [front] at behind
          simp [parameterLength, here, ← behind]
      | cons e more =>
          rw [front] at behind
          simp [parameterLength, here, behind]

/-- A dollar sign with word characters is a lexeme in front of a break. -/
theorem lexemes_parameter (given : cs ≠ []) (inside : ∀ d ∈ cs, isWordChar d = true)
    (breaks : Breaks rest) :
    lexemes ('$' :: (cs ++ rest)) = (.parameter, '$' :: cs) :: lexemes rest := by
  refine lexemes_of_extent ?_
  have named : cs.any isWordChar = true := by
    obtain ⟨d, more, rfl⟩ := List.exists_cons_of_ne_nil given
    exact List.any_eq_true.mpr ⟨d, List.mem_cons_self, inside d List.mem_cons_self⟩
  have taken : namedExtent (cs ++ rest) = (.parameter, cs.length) := by
    rw [namedExtent, parameterLength_append inside breaks, List.take_left, if_pos named]
  exact taken

theorem takeSign_of_digit (digit : c.isDigit = true) (rest : List Char) :
    Number.takeSign (c :: rest) = (false, c :: rest) := by
  have noMinus : c ≠ '-' := by
    rintro rfl
    cases digit
  have noPlus : c ≠ '+' := by
    rintro rfl
    cases digit
  simp [Number.takeSign, noMinus, noPlus]

/-- Digits are the longest number in front of a break. -/
theorem longestNumber_append (digits : ∀ d ∈ c :: cs, d.isDigit = true) (breaks : Breaks rest) :
    Number.longestNumber (c :: (cs ++ rest))
      = some ⟨false, Number.digitsValue (c :: cs), 0, true, rest⟩ := by
  have front := Text.span_append rest digits (breaks.ends (by decide))
  rw [List.cons_append] at front
  have pointless : (rest.head? == some '.') = false := by
    have noPoint := breaks.ends (p := (· == '.')) (by decide)
    refine beq_false_of_ne fun point => ?_
    exact absurd (noPoint '.' point) (by decide)
  have noExponent : Number.takeExponent rest = none := by
    have noLetter := breaks.ends (p := fun c => c == 'e' || c == 'E') (by decide)
    cases rest with
    | nil => rfl
    | cons d after =>
        have other := noLetter d rfl
        simp only [Bool.or_eq_false_iff, beq_eq_false_iff_ne] at other
        simp [Number.takeExponent, other]
  rw [Number.longestNumber, takeSign_of_digit (digits c List.mem_cons_self)]
  simp [front, pointless, noExponent]

theorem extent_number (digit : c.isDigit = true) (rest : List Char) :
    extent c rest = numberExtent c rest := by
  have differs : ∀ d : Char, d.isDigit = false -> c ≠ d := by
    rintro d outside rfl
    rw [digit] at outside
    cases outside
  have noBlank : isBlankStart c = false := by
    simp [isBlankStart, differs ' ' (by decide), differs '\t' (by decide),
      differs '\n' (by decide), differs '\x0c' (by decide), differs '\r' (by decide)]
  unfold extent
  simp [noBlank, differs '-' (by decide), differs '/' (by decide), differs '\'' (by decide),
    differs '"' (by decide), differs '\x60' (by decide), differs '[' (by decide), digit]

/-- Digits are a lexeme in front of a break. -/
theorem lexemes_number (digits : ∀ d ∈ c :: cs, d.isDigit = true) (breaks : Breaks rest) :
    lexemes (c :: (cs ++ rest)) = (.number, c :: cs) :: lexemes rest := by
  refine lexemes_of_extent ?_
  have alone : runLength isWordChar ([] ++ rest) = 0 :=
    runLength_append fun _ => breaks.ends (by decide)
  rw [List.nil_append] at alone
  rw [extent_number (digits c List.mem_cons_self), numberExtent,
    longestNumber_append digits breaks]
  simp [alone]

/-! ## Texts of keywords and signs -/

def plainSigns : List Char :=
  ['(', ')', ',', '*', '=', '<', '>', '!']

/-- The signs that are whole in front of anything. -/
def loneSigns : List Char :=
  ['(', ')', ',', '*']

/-- Whether a text has only blanks, capitals and signs. -/
def isSpelled (cs : List Char) : Bool :=
  cs.all fun c => c == ' ' || c.isUpper || plainSigns.contains c

/-- Whether what follows a text adds nothing to its last lexeme. -/
def Parts (cs rest : List Char) : Prop :=
  ∀ c ∈ cs.getLast?, (c = ' ' ∧ Solid rest) ∨ (c.isUpper = true ∧ Breaks rest)
    ∨ c ∈ loneSigns

theorem isWordStart_of_isUpper (upper : c.isUpper = true) : isWordStart c = true := by
  have range : 65 ≤ c.toNat ∧ c.toNat ≤ 90 := by
    unfold Char.isUpper at upper
    simpa [UInt32.le_iff_toNat_le] using upper
  have noDigit : c.isDigit = false := by
    by_contra digit
    have code := Text.toNat_of_isDigit (Bool.not_eq_false _ ▸ digit)
    omega
  have noDollar : c ≠ '$' := by
    rintro rfl
    exact absurd range (by decide)
  have letter : c.isAlpha = true := by
    unfold Char.isAlpha
    rw [upper, Bool.true_or]
  simp [isWordStart, isWordChar, Char.isAlphanum, letter, noDigit, noDollar]

theorem extent_sign (sign : c ∈ plainSigns) (rest : List Char) :
    extent c rest = signExtent c rest := by
  simp only [plainSigns, List.mem_cons, List.not_mem_nil, or_false] at sign
  rcases sign with rfl | rfl | rfl | rfl | rfl | rfl | rfl | rfl <;> rfl

theorem signExtent_lone (lone : c ∈ loneSigns) (rest : List Char) :
    signExtent c rest = (.sign, 0) := by
  simp only [loneSigns, List.mem_cons, List.not_mem_nil, or_false] at lone
  rcases lone with rfl | rfl | rfl | rfl <;> cases rest <;>
    simp [signExtent, doubleSigns, singleSigns]

theorem signExtent_append (cs rest : List Char) (given : cs ≠ []) :
    signExtent c (cs ++ rest) = signExtent c cs ∧ (signExtent c cs).2 ≤ cs.length := by
  obtain ⟨d, more, rfl⟩ := List.exists_cons_of_ne_nil given
  refine ⟨rfl, ?_⟩
  rw [signExtent]
  split <;> simp

/-- A text of blanks parts from something that is no blank, and a word from a break. -/
theorem Parts.of_forall (parts : Parts (c :: cs) rest) :
    ((∀ d ∈ c :: cs, isBlankChar d = true) -> Solid rest)
      ∧ ((∀ d ∈ c :: cs, isWordChar d = true) -> Breaks rest) := by
  have member := List.getLast_mem (List.cons_ne_nil c cs)
  have noBlank : loneSigns.any isBlankChar = false := by decide
  have noWord : loneSigns.any isWordChar = false := by decide
  rcases parts _ (List.getLast?_eq_some_getLast (List.cons_ne_nil c cs)) with
    ⟨last, solid⟩ | ⟨last, breaks⟩ | last
  · refine ⟨fun _ => solid, fun word => ?_⟩
    have impossible := word _ member
    rw [last] at impossible
    cases impossible
  · refine ⟨fun blank => ?_, fun _ => breaks⟩
    have inWord := isWordChar_of_isWordStart (isWordStart_of_isUpper last)
    have impossible := isBlankChar_of_isWordChar inWord
    rw [blank _ member] at impossible
    cases impossible
  · refine ⟨fun blank => ?_, fun word => ?_⟩
    · exact absurd (blank _ member) (List.any_eq_false.mp noBlank _ last)
    · exact absurd (word _ member) (List.any_eq_false.mp noWord _ last)

/-- What parts from the text behind it keeps the extent of its first lexeme. -/
theorem extent_append (spelled : isSpelled (c :: cs) = true) (parts : Parts (c :: cs) rest) :
    extent c (cs ++ rest) = extent c cs ∧ (extent c cs).2 ≤ cs.length := by
  obtain ⟨solid, breaks⟩ := parts.of_forall
  have kind := List.all_eq_true.mp spelled c List.mem_cons_self
  simp only [Bool.or_eq_true, beq_iff_eq, List.contains_iff_mem] at kind
  rcases kind with (rfl | upper) | sign
  · have run : runLength isBlankChar (cs ++ rest) = runLength isBlankChar cs :=
      runLength_append fun blank => solid (List.forall_mem_cons.mpr ⟨rfl, blank⟩)
    exact ⟨congrArg (Prod.mk LexemeKind.blank) run, runLength_le _ _⟩
  · have start := isWordStart_of_isUpper upper
    have inWord := isWordChar_of_isWordStart start
    have breaks : (∀ d ∈ cs, isWordChar d = true) -> Breaks rest := fun word =>
      breaks (List.forall_mem_cons.mpr ⟨inWord, word⟩)
    have noQuote : ∀ d ∈ cs.head?, d ≠ '\'' := by
      rintro d first rfl
      have member := List.mem_of_mem_head? first
      exact absurd (List.all_eq_true.mp spelled _ (List.mem_cons_of_mem c member)) (by decide)
    have noQuoteBehind : ∀ d ∈ (cs ++ rest).head?, d ≠ '\'' := by
      cases cs with
      | nil =>
          rintro d first rfl
          exact absurd ((breaks (by simp)).ends (p := (· == '\'')) (by decide) _ first) (by decide)
      | cons e more => exact noQuote
    rw [extent_word start noQuote, extent_word start noQuoteBehind,
      runLength_append fun word => (breaks word).ends (by decide)]
    exact ⟨rfl, runLength_le _ _⟩
  · rw [extent_sign sign, extent_sign sign]
    cases cs with
    | nil =>
        have lone : c ∈ loneSigns := by
          rcases parts c rfl with ⟨rfl, -⟩ | ⟨upper, -⟩ | lone
          · exact absurd sign (by decide)
          · simp only [plainSigns, List.mem_cons, List.not_mem_nil, or_false] at sign
            rcases sign with rfl | rfl | rfl | rfl | rfl | rfl | rfl | rfl <;> cases upper
          · exact lone
        rw [signExtent_lone lone, signExtent_lone lone]
        exact ⟨rfl, Nat.zero_le _⟩
    | cons d more => exact signExtent_append (d :: more) rest (List.cons_ne_nil d more)

/-- A spelled text keeps its lexemes in front of what parts from it. -/
theorem lexemes_append (spelled : isSpelled cs = true) (parts : Parts cs rest) :
    lexemes (cs ++ rest) = lexemes cs ++ lexemes rest := by
  fun_induction lexemes cs with
  | case1 => rfl
  -- The first lexeme stays as it is, and what it leaves of the text ends as the whole text does.
  | case2 c cs ih =>
      obtain ⟨same, within⟩ := extent_append spelled parts
      have suffix : cs.drop (extent c cs).2 <:+ c :: cs :=
        (List.drop_suffix _ _).trans (List.suffix_cons c cs)
      have behind := ih ?_ ?_
      · rw [List.cons_append, lexemes_cons, same, List.take_append_of_le_length within,
          List.drop_append_of_le_length within, behind]
        rfl
      · exact List.all_eq_true.mpr fun d member =>
          List.all_eq_true.mp spelled d (suffix.subset member)
      · intro d last
        refine parts d ?_
        obtain ⟨front, whole⟩ := suffix
        rw [← whole, List.getLast?_append, last]
        rfl

/-! ## Terminals of pieces -/

/-- A plain name: a word that is no keyword. -/
def isPlainName (s : String) : Bool :=
  s.toList.head?.any isWordStart && s.toList.all isWordChar && !keywords.contains (Text.upper s)

theorem terminals_append (spelled : isSpelled cs = true) (parts : Parts cs rest) :
    terminals (cs ++ rest) = terminals cs ++ terminals rest := by
  rw [terminals, lexemes_append spelled parts, List.filterMap_append]
  rfl

/-- A plain name begins with a character of a word. -/
theorem exists_of_isPlainName {s : String} (plain : isPlainName s = true) :
    ∃ c cs, s.toList = c :: cs ∧ isWordStart c = true ∧ (∀ d ∈ cs, isWordChar d = true)
      ∧ Terminal.ofWord s = .name := by
  simp only [isPlainName, Bool.and_eq_true, Bool.not_eq_true'] at plain
  obtain ⟨⟨first, word⟩, noKeyword⟩ := plain
  cases letters : s.toList with
  | nil => rw [letters] at first; cases first
  | cons c cs =>
      rw [letters] at first word
      refine ⟨c, cs, rfl, first, fun d member => ?_, ?_⟩
      · exact List.all_eq_true.mp word d (List.mem_cons_of_mem c member)
      · rw [Terminal.ofWord, noKeyword]
        rfl

theorem terminals_name {s : String} (plain : isPlainName s = true) (breaks : Breaks rest) :
    terminals (s.toList ++ rest) = .name :: terminals rest := by
  obtain ⟨c, cs, letters, start, inside, name⟩ := exists_of_isPlainName plain
  have word : String.ofList (c :: cs) = s := by
    rw [← letters, String.ofList_toList]
  rw [letters, List.cons_append, terminals, lexemes_word start inside breaks,
    List.filterMap_cons_some (b := .name) (by rw [Terminal.ofLexeme?, word, name])]
  rfl

theorem solid_ofNat (n : Nat) (rest : List Char) : Solid (Text.ofNat n ++ rest) := by
  obtain ⟨c, cs, written, digit⟩ := Text.exists_ofNat_eq_cons n
  rw [written]
  rintro d ⟨⟩
  exact isBlankChar_of_isWordChar (isWordChar_of_isDigit digit)

theorem terminals_number (n : Nat) (breaks : Breaks rest) :
    terminals (Text.ofNat n ++ rest) = .number :: terminals rest := by
  obtain ⟨c, cs, written, -⟩ := Text.exists_ofNat_eq_cons n
  have digits : ∀ d ∈ c :: cs, d.isDigit = true := by
    rw [← written]
    exact fun d => Text.isDigit_of_mem_ofNat
  rw [written, List.cons_append, terminals, lexemes_number digits breaks]
  rfl

theorem terminals_placeholder (n : Nat) (breaks : Breaks rest) :
    terminals ((Placeholder.mk n).write ++ rest) = .parameter :: terminals rest := by
  have inside : ∀ d ∈ Text.ofNat n, isWordChar d = true := fun _ member =>
    isWordChar_of_isDigit (Text.isDigit_of_mem_ofNat member)
  have given : Text.ofNat n ≠ [] := Nat.toDigits_ne_nil
  rw [Placeholder.write, List.cons_append, terminals, lexemes_parameter given inside breaks]
  rfl

end Embedded
end SqlGate
