import SqlGate.Metadata.Ddl
import SqlGate.Proofs.Text.Digits

namespace SqlGate

/-!
# Reading the definition of a column back

A column of a table statement begins with its name and its type.  Behind these
stand up to five clauses in a fixed order, each of which opens with a blank and
a letter of its own, so that a reader sees which clause comes next although the
words of one clause occur in another.  The expression of the default stands last
and is closed by nothing but the end of the line.

What can be read back is the shape of a column.  It leaves out what the
definition does not tell: options that were left to the database, and of a key
column whether it may be null or repeat.
-/

namespace Text

/-- A word of a table statement: no blank, no comma and no parenthesis. -/
def isTableWord (s : String) : Bool :=
  s.toList.all fun c => !(isBlank c || c == ',' || c == '(' || c == ')')

theorem ne_of_isTableWord {s : String} (word : isTableWord s = true) {d : Char}
    (breaks : (isBlank d || d == ',' || d == '(' || d == ')') = true) :
    ∀ c ∈ s.toList, c ≠ d := by
  rintro c member rfl
  have whole := List.all_eq_true.mp word c member
  rw [breaks] at whole
  cases whole

end Text

/-- What a table statement tells of one column. -/
structure ColumnShape where
  name : String
  sqlType : String
  length : Option Nat
  isGenerated : Bool
  isKey : Bool
  isNotNull : Bool
  isUnique : Bool
  default : Option String
deriving DecidableEq, Repr

namespace ColumnShape

/-! ## Writing and reading a column -/

def clauseText (stands : Bool) (clause : String) : List Char :=
  if stands then ' ' :: clause.toList else []

def lengthText : Option Nat -> List Char
  | some n => '(' :: (Text.ofNat n ++ [')'])
  | none => []

def defaultText : Option String -> List Char
  | some expression => ' ' :: "DEFAULT ".toList ++ expression.toList
  | none => []

def clausesText (s : ColumnShape) : List Char :=
  clauseText s.isGenerated "GENERATED BY DEFAULT AS IDENTITY"
    ++ (clauseText s.isKey "PRIMARY KEY" ++ (clauseText s.isNotNull "NOT NULL"
    ++ (clauseText s.isUnique "UNIQUE" ++ defaultText s.default)))

/-- The line of a column, without its margin and its comma. -/
def write (s : ColumnShape) : List Char :=
  s.name.toList ++ ' ' :: (s.sqlType.toList ++ (lengthText s.length ++ s.clausesText))

/-- Whether a clause comes next, and what stands behind it. -/
def readClause (clause : String) (text : List Char) : Bool × List Char :=
  if (' ' :: clause.toList).isPrefixOf text then (true, text.drop (clause.toList.length + 1))
  else (false, text)

/-- The length in parentheses, if one comes next, and what stands behind it. -/
def readLength : List Char -> Option Nat × List Char
  | '(' :: rest =>
      (Text.digitsToNat? (rest.takeWhile (· != ')')), (rest.dropWhile (· != ')')).drop 1)
  | text => (none, text)

/-- Whether a character cannot stand in a type. -/
def endsType (c : Char) : Bool :=
  c == ' ' || c == '('

def read (line : List Char) : ColumnShape :=
  let type := (line.dropWhile (· != ' ')).drop 1
  let length := readLength (type.dropWhile (!endsType ·))
  let generated := readClause "GENERATED BY DEFAULT AS IDENTITY" length.2
  let key := readClause "PRIMARY KEY" generated.2
  let notNull := readClause "NOT NULL" key.2
  let unique := readClause "UNIQUE" notNull.2
  let default := readClause "DEFAULT " unique.2
  { name := String.ofList (line.takeWhile (· != ' '))
    sqlType := String.ofList (type.takeWhile (!endsType ·))
    length := length.1
    isGenerated := generated.1
    isKey := key.1
    isNotNull := notNull.1
    isUnique := unique.1
    default := if default.1 then some (String.ofList default.2) else none }

/-- Nothing, or a blank and one of some letters. -/
def Opens (letters : List Char) (text : List Char) : Prop :=
  text = [] ∨ ∃ c ∈ letters, ∃ rest, text = ' ' :: c :: rest

variable {letters rest : List Char} {c : Char}

theorem readClause_append (clause : String) (rest : List Char) :
    readClause clause (' ' :: clause.toList ++ rest) = (true, rest) := by
  have next : (' ' :: clause.toList).isPrefixOf (' ' :: clause.toList ++ rest) = true :=
    List.isPrefixOf_iff_prefix.mpr (List.prefix_append _ _)
  rw [readClause, if_pos next, List.cons_append, List.drop_succ_cons, List.drop_left]

/-- A clause is not taken for another one that opens with another letter. -/
theorem readClause_of_opens {clause : String} (begins : [c] <+: clause.toList) (other : c ∉ letters)
    (opens : Opens letters rest) : readClause clause rest = (false, rest) := by
  obtain ⟨more, written⟩ := begins
  refine if_neg ?_
  rw [List.isPrefixOf_iff_prefix, ← written]
  rintro ⟨behind, same⟩
  rcases opens with rfl | ⟨d, member, after, rfl⟩
  · cases same
  · have letter : c = d := (List.cons.inj (List.cons.inj same).2).1
    exact other (letter ▸ member)

/-- A clause that may be left out is seen where it stands, and only there, and is one more that
may come next. -/
theorem readClause_clauseText (clause : String) (stands : Bool) (begins : [c] <+: clause.toList)
    (other : c ∉ letters) (opens : Opens letters rest) :
    Opens (c :: letters) (clauseText stands clause ++ rest)
      ∧ readClause clause (clauseText stands clause ++ rest) = (stands, rest) := by
  cases stands with
  | true =>
      obtain ⟨more, written⟩ := begins
      refine ⟨.inr ⟨c, List.mem_cons_self, more ++ rest, ?_⟩, readClause_append clause rest⟩
      rw [clauseText, if_pos rfl, ← written]
      rfl
  | false =>
      refine ⟨?_, readClause_of_opens begins other opens⟩
      rcases opens with nothing | ⟨d, member, more, written⟩
      · exact .inl nothing
      · exact .inr ⟨d, List.mem_cons_of_mem c member, more, written⟩

theorem opens_defaultText (default : Option String) : Opens ['D'] (defaultText default) := by
  cases default with
  | none => exact .inl rfl
  | some expression => exact .inr ⟨'D', List.mem_cons_self, _, rfl⟩

theorem readLength_lengthText (length : Option Nat) (opens : Opens letters rest) :
    readLength (lengthText length ++ rest) = (length, rest) := by
  cases length with
  | none =>
      rcases opens with rfl | ⟨d, member, more, rfl⟩ <;> rfl
  | some n =>
      have digits : ∀ c ∈ Text.ofNat n, (c != ')') = true := by
        intro c member
        refine bne_iff_ne.mpr ?_
        rintro rfl
        exact absurd (Text.isDigit_of_mem_ofNat member) (by decide)
      have shown : lengthText (some n) ++ rest = '(' :: (Text.ofNat n ++ ')' :: rest) := by
        simp [lengthText]
      rw [shown, readLength, List.takeWhile_append_of_pos digits,
        List.dropWhile_append_of_pos digits]
      simp [Text.digitsToNat?_ofNat]

/-- Behind a type stands its length, or what opens with a blank. -/
theorem head?_lengthText_append (length : Option Nat) (opens : Opens letters rest) :
    ∀ c ∈ (lengthText length ++ rest).head?, endsType c = true := by
  intro c first
  cases length with
  | some n => cases first; rfl
  | none =>
      rcases opens with rfl | ⟨d, member, more, rfl⟩
      · cases first
      · cases first; rfl

theorem default_of_readClause (default : Option String) :
    (if (readClause "DEFAULT " (defaultText default)).1 then
      some (String.ofList (readClause "DEFAULT " (defaultText default)).2) else none) = default := by
  cases default with
  | none => rfl
  | some expression =>
      have seen : readClause "DEFAULT " (defaultText (some expression))
          = (true, expression.toList) := readClause_append _ _
      rw [seen]
      simp only [if_true, String.ofList_toList]

/-- The shape of a column is read back from its line. -/
theorem read_write {s : ColumnShape} (named : Text.isTableWord s.name = true)
    (typed : Text.isTableWord s.sqlType = true) : read s.write = s := by
  -- From the last clause to the first: each is told from those that may stand behind it.
  have default := opens_defaultText s.default
  have unique := readClause_clauseText (c := 'U') "UNIQUE" s.isUnique
    (by decide) (by decide) default
  have notNull := readClause_clauseText (c := 'N') "NOT NULL" s.isNotNull
    (by decide) (by decide) unique.1
  have key := readClause_clauseText (c := 'P') "PRIMARY KEY" s.isKey
    (by decide) (by decide) notNull.1
  have generated := readClause_clauseText (c := 'G') "GENERATED BY DEFAULT AS IDENTITY"
    s.isGenerated (by decide) (by decide) key.1
  have noBlank : ∀ c ∈ s.name.toList, (c != ' ') = true := fun c member =>
    bne_iff_ne.mpr (Text.ne_of_isTableWord named (by decide) c member)
  have inType : ∀ c ∈ s.sqlType.toList, (!endsType c) = true := by
    intro c member
    have blank := Text.ne_of_isTableWord typed (d := ' ') (by decide) c member
    have paren := Text.ne_of_isTableWord typed (d := '(') (by decide) c member
    simp [endsType, blank, paren]
  have name := Text.span_append
    (' ' :: (s.sqlType.toList ++ (lengthText s.length ++ s.clausesText))) noBlank
    (fun c first => by cases first; rfl)
  have type := Text.span_append (lengthText s.length ++ s.clausesText) inType
    (fun c first => by rw [head?_lengthText_append s.length generated.1 c first]; rfl)
  have length := readLength_lengthText s.length generated.1
  rw [← clausesText] at length
  simp only [read, write, name, List.drop_one, List.tail_cons, type, length]
  simp only [clausesText, generated.2, key.2, notNull.2, unique.2, default_of_readClause,
    String.ofList_toList]

theorem newline_not_mem_write {s : ColumnShape} (named : Text.isTableWord s.name = true)
    (typed : Text.isTableWord s.sqlType = true)
    (oneLine : ∀ expression ∈ s.default, '\n' ∉ expression.toList) :
    '\n' ∉ s.write := by
  have inName := Text.ne_of_isTableWord named (d := '\n') (by decide)
  have inType := Text.ne_of_isTableWord typed (d := '\n') (by decide)
  have inLength : '\n' ∉ lengthText s.length := by
    cases s.length with
    | none => exact List.not_mem_nil
    | some n =>
        intro member
        simp only [lengthText, List.mem_cons, List.mem_append, List.not_mem_nil, or_false] at member
        rcases member with impossible | digit | impossible
        · exact absurd impossible (by decide)
        · exact absurd (Text.isDigit_of_mem_ofNat digit) (by decide)
        · exact absurd impossible (by decide)
  have inDefault : '\n' ∉ defaultText s.default := by
    cases written : s.default with
    | none => exact List.not_mem_nil
    | some expression =>
        intro member
        rcases List.mem_append.mp member with keyword | inside
        · exact absurd keyword (by decide)
        · exact oneLine expression written inside
  have inClause : ∀ (stands : Bool) (clause : String), '\n' ∉ clause.toList ->
      '\n' ∉ clauseText stands clause := by
    intro stands clause outside
    cases stands
    · exact List.not_mem_nil
    · exact List.not_mem_cons_of_ne_of_not_mem (by decide) outside
  intro member
  simp only [write, clausesText, List.mem_append, List.mem_cons] at member
  rcases member with name | blank | type | length | generated | key | notNull | unique | default
  · exact inName _ name rfl
  · exact absurd blank (by decide)
  · exact inType _ type rfl
  · exact inLength length
  · exact inClause _ _ (by decide) generated
  · exact inClause _ _ (by decide) key
  · exact inClause _ _ (by decide) notNull
  · exact inClause _ _ (by decide) unique
  · exact inDefault default

end ColumnShape

namespace ColumnMetadata

/-- The shape of a column: what a table statement tells of it. -/
def shape (c : ColumnMetadata) (isKey : Bool) : ColumnShape where
  name := c.name
  sqlType := c.sqlType
  length := c.options.length
  isGenerated := c.options.generated = some true
  isKey := isKey
  isNotNull := !isKey && c.options.nullable = some false
  isUnique := !isKey && c.options.unique = some true
  default := c.options.default

theorem toList_intercalate_blank (first : String) (rest : List String) :
    (" ".intercalate (first :: rest)).toList
      = first.toList ++ rest.flatMap fun s : String => ' ' :: s.toList := by
  induction rest generalizing first with
  | nil => simp
  | cons second others ih =>
      rw [String.intercalate_cons_cons, String.toList_append, String.toList_append, ih]
      simp

theorem flatMap_blank_ite (p : Prop) [Decidable p] (clause : String) :
    ((if p then [clause] else []).flatMap fun s : String => ' ' :: s.toList)
      = ColumnShape.clauseText p clause := by
  by_cases stands : p <;> simp [stands, ColumnShape.clauseText]

/-- The clauses of a column are those of its shape, written. -/
theorem flatMap_clauses (c : ColumnMetadata) (isKey : Bool) :
    ((c.clauses isKey).flatMap fun s : String => ' ' :: s.toList)
      = (c.shape isKey).clausesText := by
  obtain ⟨name, property, sqlType, ⟨length, nullable, unique, default, generated⟩⟩ := c
  have last : ∀ expression : String, ("DEFAULT " ++ expression).toList
      = "DEFAULT ".toList ++ expression.toList := fun _ => String.toList_append
  cases isKey <;> cases default <;>
    simp only [clauses, shape, ColumnShape.clausesText, ColumnShape.defaultText,
      List.flatMap_append, List.flatMap_cons, List.flatMap_nil, flatMap_blank_ite, last,
      if_true, if_false, Bool.false_eq_true, List.append_assoc, List.append_nil,
      Bool.not_true, Bool.not_false, Bool.false_and, Bool.true_and, List.cons_append] <;>
    rfl

/-- The definition of a column is its shape, written. -/
theorem toList_definition (c : ColumnMetadata) (isKey : Bool) :
    (c.definition isKey).toList = (c.shape isKey).write := by
  have type : c.typeText.toList = c.sqlType.toList ++ ColumnShape.lengthText c.options.length := by
    rw [typeText]
    cases c.options.length <;> simp [ColumnShape.lengthText]
  rw [definition, List.cons_append, toList_intercalate_blank, List.singleton_append,
    List.flatMap_cons, flatMap_clauses, type]
  simp only [ColumnShape.write, List.cons_append, List.append_assoc]
  rfl

end ColumnMetadata

end SqlGate
