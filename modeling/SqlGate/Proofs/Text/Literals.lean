import SqlGate.Embedded.Token
import SqlGate.Proofs.Text.Digits
import SqlGate.Value

namespace SqlGate

/-!
# Values shown as SQL literals

A text or a document is shown between single quotes, with each quote inside it
written twice.  Whoever reads the literal from the left meets the quotes one after
another and has to tell which of them closes: a run of quotes may stand anywhere in
the text, also at either end.  The rule of the literal is inverted exactly by the
writer.  What is read of a text is the content if and only if the text is the
literal of that content with something behind it that does not begin with a quote.

Two readers find the content: the rule of the literal itself, and the words of a
statement, where a literal is one lexeme.  All other values are shown without a
quote, so that nothing but a literal is ever taken for one.
-/

namespace Text
namespace Quoted

variable {c : Char} {s rest cs : List Char}

/-! ## The inside of a literal -/

theorem readInside_doubled (rest : List Char) :
    readInside ('\'' :: '\'' :: rest)
      = (readInside rest).map fun found => ('\'' :: found.1, found.2) := rfl

theorem readInside_plain (plain : c ≠ '\'') (rest : List Char) :
    readInside (c :: rest) = (readInside rest).map fun found => (c :: found.1, found.2) := by
  rw [readInside, if_neg plain]
  rintro more rfl
  exact absurd rfl plain

theorem readInside_closing (apart : rest.head? ≠ some '\'') :
    readInside ('\'' :: rest) = some ([], rest) := by
  rw [readInside, if_pos rfl]
  rintro more - rfl
  exact absurd rfl apart

theorem double_plain (plain : c ≠ '\'') (s : List Char) : double (c :: s) = c :: double s :=
  if_neg plain

/-- What is written is read back, up to the quote that closes. -/
theorem readInside_double (s : List Char) (apart : rest.head? ≠ some '\'') :
    readInside (double s ++ '\'' :: rest) = some (s, rest) := by
  induction s with
  | nil => exact readInside_closing apart
  | cons c s ih =>
      by_cases quote : c = '\''
      · subst quote
        change readInside ('\'' :: '\'' :: (double s ++ '\'' :: rest)) = _
        rw [readInside_doubled, ih]
        rfl
      · rw [double_plain quote, List.cons_append, readInside_plain quote, ih]
        rfl

/-- Whatever is read was written so.  The induction follows the reader: a doubled quote, the quote
that closes, any other character. -/
theorem eq_of_readInside (found : readInside cs = some (s, rest)) :
    cs = double s ++ '\'' :: rest ∧ rest.head? ≠ some '\'' := by
  induction cs using readInside.induct generalizing s with
  | case1 => cases found
  | case2 more ih =>
      rw [readInside_doubled] at found
      obtain ⟨⟨inside, behind⟩, read, same⟩ := Option.map_eq_some_iff.mp found
      cases same
      obtain ⟨rfl, apart⟩ := ih read
      exact ⟨rfl, apart⟩
  | case3 more single =>
      have apart : more.head? ≠ some '\'' := by
        intro quote
        obtain ⟨behind, rfl⟩ := List.head?_eq_some_iff.mp quote
        exact single behind rfl rfl
      rw [readInside_closing apart] at found
      cases found
      exact ⟨rfl, apart⟩
  | case4 c more single plain ih =>
      rw [readInside_plain plain] at found
      obtain ⟨⟨inside, behind⟩, read, same⟩ := Option.map_eq_some_iff.mp found
      cases same
      obtain ⟨rfl, apart⟩ := ih read
      exact ⟨by rw [double_plain plain]; rfl, apart⟩

/-! ## Whole literals -/

theorem write_append (s rest : List Char) :
    write s ++ rest = '\'' :: (double s ++ '\'' :: rest) := by
  simp [write]

theorem read_eq_none (apart : cs.head? ≠ some '\'') : read cs = none := by
  unfold read
  split
  · exact absurd rfl apart
  · rfl

/-- A literal is read as its content exactly where it stands, and no further quote behind it. -/
theorem read_eq_some_iff :
    read cs = some (s, rest) ↔ cs = write s ++ rest ∧ rest.head? ≠ some '\'' := by
  constructor
  · intro found
    unfold read at found
    split at found
    · obtain ⟨rfl, apart⟩ := eq_of_readInside found
      exact ⟨(write_append s rest).symm, apart⟩
    · cases found
  · rintro ⟨rfl, apart⟩
    rw [write_append]
    exact readInside_double s apart

theorem read_write (s : List Char) : read (write s) = some (s, []) :=
  read_eq_some_iff.mpr ⟨(List.append_nil _).symm, nofun⟩

end Quoted
end Text

/-! ## Literals among the words of a statement -/

namespace Embedded

open Text.Quoted (double double_plain write)

theorem closingQuote?_plain {quote c : Char} (plain : c ≠ quote) (cs : List Char) :
    closingQuote? quote (c :: cs) = (closingQuote? quote cs).map (· + 1) := by
  cases cs <;> simp [closingQuote?, plain]

/-- A literal closes with its last character. -/
theorem closingQuote?_double (s : List Char) :
    closingQuote? '\'' (double s ++ ['\'']) = some (double s ++ ['\'']).length := by
  induction s with
  | nil => rfl
  | cons c s ih =>
      by_cases quote : c = '\''
      · subst quote
        change closingQuote? '\'' ('\'' :: '\'' :: (double s ++ ['\''])) = _
        rw [closingQuote?, if_pos rfl, if_pos rfl, ih]
        rfl
      · rw [double_plain quote, List.cons_append, closingQuote?_plain quote, ih]
        rfl

/-- A literal is one lexeme. -/
theorem lexemes_write (s : List Char) : lexemes (write s) = [(.string, write s)] := by
  have takes : extent '\'' (double s ++ ['\'']) = (.string, (double s ++ ['\'']).length) := by
    change quotedExtent .string '\'' _ = _
    rw [quotedExtent, closingQuote?_double]
  rw [write, lexemes, takes, List.take_length, List.drop_length, lexemes]

theorem undouble_plain {quote c : Char} (plain : c ≠ quote) (cs : List Char) :
    unquote.undouble quote (c :: cs) = c :: unquote.undouble quote cs := by
  cases cs <;> simp [unquote.undouble, plain]

theorem undouble_double (s : List Char) : unquote.undouble '\'' (double s) = s := by
  induction s with
  | nil => rfl
  | cons c s ih =>
      by_cases quote : c = '\''
      · subst quote
        change unquote.undouble '\'' ('\'' :: '\'' :: double s) = _
        rw [unquote.undouble, if_pos ⟨rfl, rfl⟩, ih]
      · rw [double_plain quote, undouble_plain quote, ih]

theorem unquote_write (s : List Char) : unquote '\'' (write s) = String.ofList s := by
  rw [unquote, write, List.drop_one, List.tail_cons, List.dropLast_concat, undouble_double]

end Embedded

/-! ## Numbers -/

namespace Number

theorem isDigit_or_point_of_mem_positional {d : Decimal} {c : Char}
    (member : c ∈ positional [] d) : c.isDigit = true ∨ c = '.' := by
  have digit : ∀ e ∈ d.characters, e.isDigit = true := fun _ => Text.isDigit_of_mem_ofNat
  have zero : ∀ (n : Nat), ∀ e ∈ List.replicate n '0', e.isDigit = true := by
    intro n e inside
    rw [List.eq_of_mem_replicate inside]
    rfl
  have parts : ∀ e, e ∈ (positionalParts d).1 ∨ e ∈ (positionalParts d).2 -> e.isDigit = true := by
    intro e inside
    unfold positionalParts at inside
    dsimp only at inside
    split at inside
    · rcases inside with inside | inside
      · rcases List.mem_append.mp inside with front | zeros
        · exact digit e front
        · exact zero _ e zeros
      · cases inside
    · split at inside
      · rcases inside with front | behind
        · exact digit e (List.mem_of_mem_take front)
        · exact digit e (List.mem_of_mem_drop behind)
      · rcases inside with front | behind
        · rw [List.mem_singleton.mp front]
          rfl
        · rcases List.mem_append.mp behind with zeros | digits
          · exact zero _ e zeros
          · exact digit e digits
  unfold positional at member
  split at member <;> rename_i split
  · rw [List.append_nil] at member
    exact .inl (parts c (.inl (split ▸ member)))
  · rcases List.mem_append.mp member with front | point
    · exact .inl (parts c (.inl (split ▸ front)))
    · rcases List.mem_cons.mp point with rfl | behind
      · exact .inr rfl
      · exact .inl (parts c (.inr (split ▸ behind)))

/-- A number on its own has no quote. -/
theorem quote_notMem_plainText (x : Binary64) : '\'' ∉ (plainText x).toList := by
  unfold plainText withSign
  split
  · decide
  · split
    · split <;> decide
    · rw [String.toList_ofList]
      intro member
      have written : '\'' ∈ positional [] (shortest x) := by
        split at member
        · exact (List.mem_cons.mp member).resolve_left (by decide)
        · exact member
      rcases isDigit_or_point_of_mem_positional written with digit | point
      · exact absurd digit (by decide)
      · exact absurd point (by decide)

end Number

theorem Text.quote_notMem_ofInt (n : Int) : '\'' ∉ (Text.ofInt n).toList := by
  have digits : ∀ k, '\'' ∉ Text.ofNat k := fun k member =>
    absurd (Text.isDigit_of_mem_ofNat member) (by decide)
  cases n with
  | ofNat k =>
      rw [Text.ofInt, String.toList_ofList]
      exact digits k
  | negSucc k =>
      rw [Text.ofInt, String.toList_ofList]
      exact fun member => digits _ ((List.mem_cons.mp member).resolve_left (by decide))

/-! ## Values -/

namespace Value

open Text (Quoted.read Quoted.read_eq_none Quoted.read_eq_some_iff Quoted.read_write Quoted.write)

/-- What a value shows between quotes: a text itself, and a document as its compact text. -/
def quotedContent? : Value -> Option String
  | .text s => some s
  | .json document => some document.compact
  | _ => none

theorem toList_display {v : Value} {content : String} (shown : v.quotedContent? = some content) :
    v.display.toList = Quoted.write content.toList := by
  cases v with
  | text s | json document =>
      cases shown
      exact Text.toList_quoted _
  | null | bool _ | int _ | float _ => cases shown

theorem quote_notMem_display {v : Value} (bare : v.quotedContent? = none) :
    '\'' ∉ v.display.toList := by
  cases v with
  | null => decide
  | bool b => cases b <;> decide
  | int n => exact Text.quote_notMem_ofInt _
  | float x => exact Number.quote_notMem_plainText x
  | text s | json document => cases bare

/-- What is shown is read as a literal to its end, or is no literal. -/
theorem read_display (v : Value) :
    Quoted.read v.display.toList = v.quotedContent?.map fun content => (content.toList, []) := by
  cases shown : v.quotedContent? with
  | some content =>
      rw [toList_display shown, Quoted.read_write]
      rfl
  | none =>
      refine Quoted.read_eq_none fun quote => quote_notMem_display shown ?_
      exact List.mem_of_mem_head? quote

/-- A text or document is shown as a closed literal.  The rule of the literal reads it to its last
character and finds the text, or the compact text of the document; with more behind it the same is
read exactly if this does not begin with a quote.  Among the words of a statement it is one lexeme
that stands for the content.  Another value is shown alike only if it is a text or document of the
same content, so that two texts that are shown alike are equal. -/
theorem display_closes {v : Value} {content : String} (shown : v.quotedContent? = some content) :
    Quoted.read v.display.toList = some (content.toList, [])
      ∧ (∀ behind : List Char,
          Quoted.read (v.display.toList ++ behind) = some (content.toList, behind)
            ↔ behind.head? ≠ some '\'')
      ∧ Embedded.lexemes v.display.toList = [(.string, v.display.toList)]
      ∧ Embedded.unquote '\'' v.display.toList = content
      ∧ (∀ other : Value, other.display = v.display ↔ other.quotedContent? = some content)
      ∧ ∀ s t : String, (Value.text s).display = (Value.text t).display ↔ s = t := by
  have alike : ∀ (first second : Value) (inside : String), second.quotedContent? = some inside ->
      (first.display = second.display ↔ first.quotedContent? = some inside) := by
    intro first second inside known
    constructor
    · intro same
      have read := read_display first
      rw [same, read_display second, known] at read
      obtain ⟨found, given, equal⟩ := Option.map_eq_some_iff.mp read.symm
      rw [given, String.toList_inj.mp (Prod.ext_iff.mp equal).1]
    · intro given
      exact String.toList_inj.mp ((toList_display given).trans (toList_display known).symm)
  refine ⟨?_, ?_, ?_, ?_, ?_, ?_⟩
  · rw [read_display, shown]
    rfl
  · intro behind
    rw [toList_display shown, Quoted.read_eq_some_iff]
    exact and_iff_right rfl
  · rw [toList_display shown]
    exact Embedded.lexemes_write _
  · rw [toList_display shown, Embedded.unquote_write, String.ofList_toList]
  · exact fun other => alike other v content shown
  · intro s t
    exact (alike (.text s) (.text t) t rfl).trans Option.some_inj

/-- A name with quotes at both ends and in its middle. -/
theorem display_closes_quotedNickname :
    (Value.text "'Chicago O'Hare'").quotedContent? = some "'Chicago O'Hare'"
      ∧ (Value.text "'Chicago O'Hare'").display = "'''Chicago O''Hare'''"
      ∧ Quoted.read "'''Chicago O''Hare'''".toList = some ("'Chicago O'Hare'".toList, []) := by
  have shown : (Value.text "'Chicago O'Hare'").quotedContent? = some "'Chicago O'Hare'" := rfl
  have written : (Value.text "'Chicago O'Hare'").display = "'''Chicago O''Hare'''" := by decide
  exact ⟨shown, written, written ▸ (display_closes shown).1⟩

end Value
end SqlGate
