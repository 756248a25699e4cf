import SqlGate.Proofs.Text.Words
import SqlGate.Query.Builder

namespace SqlGate

/-!
# Which texts name an operator

A condition can be given its operator as a text.  Operators have a table by which they
are read and another one by which they are written, and the two agree: a text is read
exactly if it is the spelling of an operator in statements, or the other spelling of
inequality, once its words are joined by single blanks and its ASCII letters raised.
So it is read by its words, which must be those of a spelling, and then it names the
operator of that spelling and no other.  Since words do not know the gaps between them,
a text may be padded and spaced with any blanks; since only the case of ASCII letters is
disregarded, no other letter can take the place of one.

Where a blank is put inside a word, the words run together to the same
characters but are one more, and no two spellings differ in this way; so what named an
operator names none afterwards.  A builder cannot tell a text from the operator that
the text names, and tells any other text from it.
-/

namespace Operator

/-! ## Spellings -/

/-- The spellings of an operator: the one in statements, and another one for inequality. -/
def texts (op : Operator) : List String :=
  match op with
  | .notEq => [op.sql, "<>"]
  | op => [op.sql]

/-- The spellings of an operator as lists of words. -/
def spellings (op : Operator) : List (List (List Char)) :=
  op.texts.map fun text => Text.words text.toList

/-- The words of a text with ASCII letters raised. -/
def normalWords (s : String) : List (List Char) :=
  Text.words (s.toList.map Char.toUpper)

/-- The table that is read agrees with the one that is written. -/
theorem ofCollapsed?_eq_some_iff {text : String} {op : Operator} :
    ofCollapsed? text = some op ↔ text ∈ op.texts := by
  constructor
  · intro found
    rw [ofCollapsed?.eq_def] at found
    split at found <;> cases found <;> decide
  · intro member
    have known : ∀ op ∈ all, ∀ text ∈ op.texts, ofCollapsed? text = some op := by decide +kernel
    exact known op (mem_all op) text member

/-- A spelling has one blank between its words and nothing around them. -/
theorem intercalate_words_of_mem_texts {op : Operator} {text : String} (member : text ∈ op.texts) :
    [' '].intercalate (Text.words text.toList) = text.toList := by
  have known : ∀ op ∈ all, ∀ text ∈ op.texts,
      [' '].intercalate (Text.words text.toList) = text.toList := by decide +kernel
  exact known op (mem_all op) text member

/-- Spellings that run together to the same characters are cut into words alike. -/
theorem spelling_eq_of_flatten_eq {op other : Operator} {first second : List (List Char)}
    (own : first ∈ op.spellings) (also : second ∈ other.spellings)
    (same : first.flatten = second.flatten) : first = second := by
  have known : ∀ op ∈ all, ∀ other ∈ all, ∀ first ∈ op.spellings, ∀ second ∈ other.spellings,
      first.flatten = second.flatten -> first = second := by decide +kernel
  exact known op (mem_all op) other (mem_all other) first own second also same

/-! ## Reading a text -/

variable {s t : String} {op : Operator}

theorem normalWords_eq (s : String) :
    normalWords s = (Text.words s.toList).map (List.map Char.toUpper) :=
  Text.words_map Text.isBlank_toUpper s.toList

theorem toList_collapsed (s : String) : (collapsed s).toList = [' '].intercalate (normalWords s) := by
  have moved : ∀ ws : List (List Char), ([' '].intercalate ws).map Char.toUpper
      = [' '].intercalate (ws.map (List.map Char.toUpper)) := by
    intro ws
    induction ws with
    | nil => rfl
    | cons w ws ih =>
        cases ws with
        | nil => simp [List.intercalate_singleton]
        | cons v others =>
            have front : [' '].map Char.toUpper = [' '] := rfl
            have parts : (w :: v :: others).map (List.map Char.toUpper)
                = w.map Char.toUpper :: v.map Char.toUpper :: others.map (List.map Char.toUpper) := rfl
            rw [List.intercalate_cons_cons, List.map_append, List.map_append, ih, front, parts,
              List.intercalate_cons_cons]
            rfl
  rw [collapsed, Text.toList_upper, String.toList_ofList, moved, normalWords_eq]

theorem collapsed_mem_texts_iff : collapsed s ∈ op.texts ↔ normalWords s ∈ op.spellings := by
  have rejoined : Text.words ([' '].intercalate (normalWords s)) = normalWords s :=
    Text.words_intercalate (Text.spaced_words _).isWord
  rw [spellings, List.mem_map]
  constructor
  · intro member
    exact ⟨collapsed s, member, by rw [toList_collapsed, rejoined]⟩
  · rintro ⟨text, member, same⟩
    have equal : (collapsed s).toList = text.toList := by
      rw [toList_collapsed, ← same, intercalate_words_of_mem_texts member]
    rw [String.toList_inj.mp equal]
    exact member

theorem parse?_eq_some_iff : parse? s = some op ↔ normalWords s ∈ op.spellings := by
  rw [parse?, ofCollapsed?_eq_some_iff, collapsed_mem_texts_iff]

/-- Nothing but the words is looked at. -/
theorem parse?_congr (same : normalWords s = normalWords t) : parse? s = parse? t := by
  apply Option.ext
  intro op
  rw [parse?_eq_some_iff, parse?_eq_some_iff, same]

/-- A text that names an operator names none when a gap is put inside one of its words. -/
theorem parse?_gap_inside {front gap behind : List Char} {c d : Char}
    (whole : s.toList = front ++ c :: d :: behind) (last : Text.isBlank c = false)
    (next : Text.isBlank d = false) (given : gap ≠ []) (blank : Text.IsGap gap)
    (named : parse? s = some op) :
    parse? (String.ofList (front ++ c :: (gap ++ d :: behind))) = none := by
  rw [Option.eq_none_iff_forall_ne_some]
  intro other found
  have own := parse?_eq_some_iff.mp named
  have also := parse?_eq_some_iff.mp found
  have raised : ∀ {e : Char}, Text.isBlank e = false -> Text.isBlank e.toUpper = false :=
    fun solid => (Text.isBlank_toUpper _).trans solid
  have blanks := blank.map Text.isBlank_toUpper
  have some : gap.map Char.toUpper ≠ [] := by simpa using given
  obtain ⟨longer, same⟩ := Text.words_gap_inside (raised last) (raised next) some blanks
    (front.map Char.toUpper) (behind.map Char.toUpper)
  have short : normalWords s
      = Text.words (front.map Char.toUpper ++ c.toUpper :: d.toUpper :: behind.map Char.toUpper) := by
    rw [normalWords, whole]
    simp
  have long : normalWords (String.ofList (front ++ c :: (gap ++ d :: behind)))
      = Text.words (front.map Char.toUpper
          ++ c.toUpper :: (gap.map Char.toUpper ++ d.toUpper :: behind.map Char.toUpper)) := by
    rw [normalWords, String.toList_ofList]
    simp
  rw [short] at own
  rw [long] at also
  have equal := spelling_eq_of_flatten_eq also own same
  rw [equal] at longer
  omega

end Operator

/-! ## Texts in the calls of a builder -/

namespace Builder

variable {s : String} {op : Operator}

/-- A text and an operator come to the same exactly if the text names the operator, wherever each
operator makes a difference and no fault makes the same one. -/
theorem resolve_spelled_iff {β : Type} (place : Except CompileFault Operator -> β)
    (differs : ∀ first second, place (.ok first) = place (.ok second) -> first = second)
    (apart : ∀ fault op, place (.error fault) ≠ place (.ok op)) :
    place (OperatorSource.spelled s).resolve = place (OperatorSource.known op).resolve
      ↔ Operator.parse? s = some op := by
  rw [OperatorSource.resolve, OperatorSource.resolve]
  cases Operator.parse? s with
  | none => exact ⟨fun same => absurd same (apart _ _), nofun⟩
  | some found =>
      rw [Option.some_inj]
      exact ⟨differs found op, fun same => by rw [same]⟩

/-- The condition that a call adds when its operator was read or not. -/
def placeCondition (b : Builder) (connective : Connective) (field : String) (operand : Operand) :
    Except CompileFault Operator -> Builder
  | .ok op => b.edit fun d => { d with wheres := d.wheres ++ [⟨field, op, operand, connective⟩] }
  | .error fault => b.reject fault

/-- The condition on groups that a call adds when its operator was read or not. -/
def placeHaving (b : Builder) (field : String) (operand : Operand) :
    Except CompileFault Operator -> Builder
  | .ok op => b.edit fun d => { d with having := d.having ++ [⟨field, op, operand, .and⟩] }
  | .error fault => b.reject fault

-- For any source at once: the texts of a given one need not be looked at.
theorem condition_eq (b : Builder) (connective : Connective) (field : String)
    (source : OperatorSource) (operand : Operand) :
    b.condition connective field source operand
      = b.placeCondition connective field operand source.resolve := rfl

theorem having_eq (b : Builder) (field : String) (source : OperatorSource) (operand : Operand) :
    b.having field source operand = b.placeHaving field operand source.resolve := rfl

theorem condition_spelled_iff (b : Builder) (connective : Connective) (field : String)
    (operand : Operand) :
    b.condition connective field (.spelled s) operand
        = b.condition connective field (.known op) operand ↔ Operator.parse? s = some op := by
  rw [condition_eq, condition_eq]
  apply resolve_spelled_iff
  · intro first second same
    have wheres := congrArg (fun b : Builder => b.draft.wheres) same
    have last := List.append_cancel_left wheres
    exact (Predicate.mk.inj (List.cons.inj last).1).2.1
  · intro fault op same
    have count := congrArg (fun b : Builder => b.draft.wheres.length) same
    simp [placeCondition, reject, edit] at count

theorem having_spelled_iff (b : Builder) (field : String) (operand : Operand) :
    b.having field (.spelled s) operand = b.having field (.known op) operand
      ↔ Operator.parse? s = some op := by
  rw [having_eq, having_eq]
  apply resolve_spelled_iff
  · intro first second same
    have having := congrArg (fun b : Builder => b.draft.having) same
    have last := List.append_cancel_left having
    exact (Predicate.mk.inj (List.cons.inj last).1).2.1
  · intro fault op same
    have count := congrArg (fun b : Builder => b.draft.having.length) same
    simp [placeHaving, reject, edit] at count

end Builder

namespace Operator

/-- A text names an operator exactly if its words, with ASCII letters raised, are those of a
spelling of it; or, put as one text with single blanks, if they are that spelling.  The words are
what stands between the gaps of the text, whatever the gaps are, so that two texts with the same
words up to the case of ASCII letters name the same; and a gap inside a word leaves the text without
a name.  A condition or a condition on groups that is given the text makes the same builder as one
that is given the operator exactly if the text names it. -/
theorem names_iff_spelled (s : String) (op : Operator) :
    (parse? s = some op ↔ (Text.words s.toList).map (List.map Char.toUpper) ∈ op.spellings)
      ∧ (parse? s = some op ↔ collapsed s ∈ op.texts)
      ∧ (∀ ws : List (List Char), Text.words s.toList = ws ↔ Text.Spaced ws s.toList)
      ∧ (∀ (t : String) (ws others : List (List Char)),
          Text.Spaced ws s.toList -> Text.Spaced others t.toList ->
          ws.map (List.map Char.toUpper) = others.map (List.map Char.toUpper) ->
          parse? t = parse? s)
      ∧ (∀ (front gap behind : List Char) (c d : Char), s.toList = front ++ c :: d :: behind ->
          Text.isBlank c = false -> Text.isBlank d = false -> gap ≠ [] -> Text.IsGap gap ->
          parse? s = some op ->
          parse? (String.ofList (front ++ c :: (gap ++ d :: behind))) = none)
      ∧ (∀ (b : Builder) (connective : Connective) (field : String) (operand : Operand),
          b.condition connective field (.spelled s) operand
            = b.condition connective field (.known op) operand ↔ parse? s = some op)
      ∧ ∀ (b : Builder) (field : String) (operand : Operand),
          b.having field (.spelled s) operand = b.having field (.known op) operand
            ↔ parse? s = some op := by
  refine ⟨?_, ?_, fun _ => Text.words_eq_iff, ?_, ?_, ?_, ?_⟩
  · rw [parse?_eq_some_iff, normalWords_eq]
  · rw [parse?_eq_some_iff, collapsed_mem_texts_iff]
  · intro t ws others ofText ofOther same
    refine parse?_congr ?_
    rw [normalWords_eq, normalWords_eq, Text.words_of_spaced ofText, Text.words_of_spaced ofOther,
      same]
  · intro front gap behind c d whole last next given blank named
    exact parse?_gap_inside whole last next given blank named
  · exact fun b connective field operand => b.condition_spelled_iff connective field operand
  · exact fun b field operand => b.having_spelled_iff field operand

/-- A padded text in both cases and with two kinds of blanks names an operator; with a blank inside
its last word it names none. -/
theorem names_iff_spelled_isNotNull :
    parse? " is\u2003\u2003NOT\tnull " = some .isNotNull
      ∧ parse? " is\u2003\u2003NOT\tnu ll " = none := by
  let front : List Char := [' ', 'i', 's', '\u2003', '\u2003', 'N', 'O', 'T', '\t', 'n']
  have named : parse? " is\u2003\u2003NOT\tnull " = some .isNotNull := by decide +kernel
  have whole : " is\u2003\u2003NOT\tnull ".toList = front ++ 'u' :: 'l' :: ['l', ' '] := by
    decide +kernel
  have cut : String.ofList (front ++ 'u' :: ([' '] ++ 'l' :: ['l', ' ']))
      = " is\u2003\u2003NOT\tnu ll " := by decide +kernel
  have gap : Text.IsGap [' '] := by
    intro c member
    rw [List.mem_singleton.mp member]
    rfl
  have inside := (names_iff_spelled " is\u2003\u2003NOT\tnull " .isNotNull).2.2.2.2.1
    front [' '] ['l', ' '] 'u' 'l' whole rfl rfl nofun gap named
  rw [cut] at inside
  exact ⟨named, inside⟩

/-- A letter that only a wider case map would raise to a letter of a spelling is no such letter. -/
example : ["ılike", "li\u212ae", "ｉｎ", "in"].map parse? = [none, none, none, some .isIn] := by
  decide +kernel

end Operator
end SqlGate
