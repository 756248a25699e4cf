import SqlGate.Proofs.Json.NumberTexts
import SqlGate.Proofs.Json.StringTexts

namespace SqlGate
namespace Json

/-!
# Cutting a text into tokens

Every token has a text, and what is cut into tokens is made of their texts with
blanks between them.  A token takes at least one character, so the fuel for
cutting a text never runs out and the tokens of a text are those of its front
and then those of the rest.
-/

/-! ## Texts of tokens -/

/-- The text of a token. -/
inductive Lexeme : List Char -> Token -> Prop
  | openList : Lexeme ['['] .openList
  | closeList : Lexeme [']'] .closeList
  | openObject : Lexeme ['\x7b'] .openObject
  | closeObject : Lexeme ['\x7d'] .closeObject
  | comma : Lexeme [','] .comma
  | colon : Lexeme [':'] .colon
  | null : Lexeme ['n', 'u', 'l', 'l'] .null
  | wordTrue : Lexeme ['t', 'r', 'u', 'e'] (.bool true)
  | wordFalse : Lexeme ['f', 'a', 'l', 's', 'e'] (.bool false)
  | number (number : NumberText) : Lexeme number.chars (.number number.literal.value?)
  | string {inside : List Char} {value : Option String} (quotes : Quotes inside value) :
      Lexeme ('"' :: (inside ++ ['"'])) (.text value)

theorem forall_mem_ite {α : Type} {condition : Prop} [Decidable condition] {first second : Option α}
    {holds : α -> Prop} (one : condition -> ∀ a ∈ first, holds a)
    (other : ∀ a ∈ second, holds a) : ∀ a ∈ if condition then first else second, holds a := by
  split
  · rename_i given
    exact one given
  · exact other

theorem eq_append_of_dropWord {word cs rest : List Char} (dropped : dropWord word cs = some rest) :
    cs = word ++ rest := by
  unfold dropWord at dropped
  split at dropped
  · rename_i begins
    cases dropped
    exact (List.prefix_iff_eq_append.mp (List.isPrefixOf_iff_prefix.mp begins)).symm
  · cases dropped

/-- A token that is read is the text of one, and what follows it. -/
theorem exists_lexeme (c : Char) (cs : List Char) :
    ∀ found ∈ readToken c cs, ∃ text, Lexeme text found.1 ∧ c :: cs = text ++ found.2 := by
  have sign : ∀ {mark : Char} {token : Token}, Lexeme [mark] token -> c = mark ->
      ∀ found ∈ some (token, cs), ∃ text, Lexeme text found.1 ∧ c :: cs = text ++ found.2 := by
    intro mark token lexeme same found taken
    cases taken
    exact ⟨[mark], lexeme, by rw [same, List.singleton_append]⟩
  have word : ∀ {first : Char} {rest : List Char} {token : Token},
      Lexeme (first :: rest) token -> c = first ->
      ∀ found ∈ (dropWord rest cs).map fun rest => (token, rest),
        ∃ text, Lexeme text found.1 ∧ c :: cs = text ++ found.2 := by
    rintro first rest token lexeme same found mapped
    obtain ⟨behind, dropped, rfl⟩ := Option.map_eq_some_iff.mp mapped
    exact ⟨_, lexeme, by rw [same, eq_append_of_dropWord dropped, List.cons_append]⟩
  rw [readToken]
  refine forall_mem_ite (sign .openList) (forall_mem_ite (sign .closeList)
    (forall_mem_ite (sign .openObject) (forall_mem_ite (sign .closeObject)
      (forall_mem_ite (sign .comma) (forall_mem_ite (sign .colon) (forall_mem_ite ?text
        (forall_mem_ite (word .null) (forall_mem_ite (word .wordTrue)
          (forall_mem_ite (word .wordFalse) (forall_mem_ite ?negative
            (forall_mem_ite ?number ?other)))))))))))
  case text =>
    rintro rfl found mapped
    obtain ⟨read, reads, rfl⟩ := Option.map_eq_some_iff.mp mapped
    obtain ⟨inside, escapes, rfl⟩ := exists_escapes reads
    refine ⟨_, .string escapes.quotes, ?_⟩
    rw [List.cons_append, List.append_assoc, List.singleton_append]
  case negative =>
    rintro rfl found mapped
    obtain ⟨read, reads, rfl⟩ := Option.map_eq_some_iff.mp mapped
    obtain ⟨number, minus, literal, rfl⟩ := exists_numberText reads
    refine ⟨number.chars, ?_, ?_⟩
    · rw [← literal]
      exact .number number
    · rw [NumberText.chars, if_pos minus, List.cons_append]
  case number =>
    rintro - found mapped
    obtain ⟨read, reads, rfl⟩ := Option.map_eq_some_iff.mp mapped
    obtain ⟨number, plain, literal, whole⟩ := exists_numberText reads
    refine ⟨number.chars, ?_, ?_⟩
    · rw [← literal]
      exact .number number
    · rw [NumberText.chars, plain, if_neg Bool.false_ne_true, whole]
  case other =>
    intro found none
    cases none

theorem Lexeme.ne_nil {text : List Char} {token : Token} (lexeme : Lexeme text token) :
    text ≠ [] := by
  cases lexeme with
  | number number => exact number.chars_ne_nil
  | _ => exact List.cons_ne_nil _ _

/-- A token takes its first character at least. -/
theorem length_of_readToken (c : Char) (cs : List Char) :
    ∀ found ∈ readToken c cs, found.2.length ≤ cs.length := by
  intro found taken
  obtain ⟨text, lexeme, whole⟩ := exists_lexeme c cs found taken
  have some := List.length_pos_iff.mpr lexeme.ne_nil
  have count := congrArg List.length whole
  rw [List.length_cons, List.length_append] at count
  omega

/-! ## One token after another -/

/-- More fuel than characters makes no difference. -/
theorem readTokens_of_le {fuel : Nat} {cs : List Char} (enough : cs.length ≤ fuel) :
    readTokens fuel cs = tokens? cs := by
  have same : ∀ {one other : Nat} {cs : List Char}, cs.length ≤ one -> cs.length ≤ other ->
      readTokens one cs = readTokens other cs := by
    intro one
    induction one with
    | zero =>
        intro other cs none _
        rw [List.length_eq_zero_iff.mp (Nat.le_zero.mp none)]
        cases other <;> rfl
    | succ one ih =>
        intro other cs enough fits
        cases cs with
        | nil => cases other <;> rfl
        | cons c rest =>
            obtain ⟨other, rfl⟩ := Nat.exists_eq_succ_of_ne_zero (Nat.ne_zero_of_lt fits)
            have enough := Nat.le_of_succ_le_succ enough
            have fits := Nat.le_of_succ_le_succ fits
            rw [readTokens, readTokens, ih enough fits]
            cases read : readToken c rest with
            | none => rfl
            | some found =>
                have shorter := length_of_readToken c rest found read
                dsimp only
                rw [ih (Nat.le_trans shorter enough) (Nat.le_trans shorter fits)]
  exact same enough (Nat.le_refl _)

/-- The tokens of a text are the first one and those of the rest. -/
theorem tokens?_cons {c : Char} {cs rest : List Char} {token : Token} (solid : isSpace c = false)
    (read : readToken c cs = some (token, rest)) :
    tokens? (c :: cs) = (tokens? rest).map (token :: ·) := by
  have shorter := length_of_readToken c cs _ read
  rw [tokens?, List.length_cons, readTokens, solid, if_neg Bool.false_ne_true, read]
  dsimp only
  rw [readTokens_of_le shorter]

/-- What may stand between tokens. -/
def IsGap (cs : List Char) : Prop :=
  ∀ c ∈ cs, isSpace c = true

theorem isGap_nil : IsGap [] := nofun

theorem isGap_cons {c : Char} {cs : List Char} (space : isSpace c = true) (blank : IsGap cs) :
    IsGap (c :: cs) :=
  List.forall_mem_cons.mpr ⟨space, blank⟩

theorem IsGap.append {front behind : List Char} (first : IsGap front) (second : IsGap behind) :
    IsGap (front ++ behind) :=
  List.forall_mem_append.mpr ⟨first, second⟩

/-- Blanks in front of a token are passed over. -/
theorem tokens?_gap {gap : List Char} (blank : IsGap gap) (cs : List Char) :
    tokens? (gap ++ cs) = tokens? cs := by
  induction gap with
  | nil => rfl
  | cons c gap ih =>
      rw [List.cons_append, tokens?, List.length_cons, readTokens, blank c List.mem_cons_self,
        if_pos rfl, readTokens_of_le (Nat.le_refl _)]
      exact ih fun d member => blank d (List.mem_cons_of_mem c member)

/-! ## Marks and words -/

theorem tokens?_openList (cs : List Char) : tokens? ('[' :: cs) = (tokens? cs).map (.openList :: ·) :=
  tokens?_cons rfl rfl

theorem tokens?_closeList (cs : List Char) :
    tokens? (']' :: cs) = (tokens? cs).map (.closeList :: ·) :=
  tokens?_cons rfl rfl

theorem tokens?_openObject (cs : List Char) :
    tokens? ('\x7b' :: cs) = (tokens? cs).map (.openObject :: ·) :=
  tokens?_cons rfl rfl

theorem tokens?_closeObject (cs : List Char) :
    tokens? ('\x7d' :: cs) = (tokens? cs).map (.closeObject :: ·) :=
  tokens?_cons rfl rfl

theorem tokens?_comma (cs : List Char) : tokens? (',' :: cs) = (tokens? cs).map (.comma :: ·) :=
  tokens?_cons rfl rfl

theorem tokens?_colon (cs : List Char) : tokens? (':' :: cs) = (tokens? cs).map (.colon :: ·) :=
  tokens?_cons rfl rfl

theorem tokens?_null (cs : List Char) :
    tokens? (['n', 'u', 'l', 'l'] ++ cs) = (tokens? cs).map (.null :: ·) :=
  tokens?_cons rfl rfl

theorem tokens?_writeBool (b : Bool) (cs : List Char) :
    tokens? (writeBool b ++ cs) = (tokens? cs).map (.bool b :: ·) := by
  cases b with
  | true => exact tokens?_cons rfl rfl
  | false => exact tokens?_cons rfl rfl

/-! ## Strings -/

/-- A string is one token. -/
theorem Quotes.tokens? {inside : List Char} {value : Option String} (quotes : Quotes inside value)
    (rest : List Char) :
    tokens? ('"' :: (inside ++ '"' :: rest)) = (tokens? rest).map (.text value :: ·) := by
  obtain ⟨pieces, escapes, joined⟩ := quotes.exists_pieces
  have read : readToken '"' (inside ++ '"' :: rest) = some (.text value, rest) := by
    change (readPieces _).map _ = _
    rw [escapes.readPieces, Option.map_some, joined]
  exact tokens?_cons rfl read

/-! ## What is cut -/

/-- Texts of tokens one after another, with blanks around them. -/
inductive Lexes : List Char -> List Token -> Prop
  | nil {gap : List Char} (blank : IsGap gap) : Lexes gap []
  | cons {gap text rest : List Char} {token : Token} {tokens : List Token}
      (blank : IsGap gap) (lexeme : Lexeme text token) (others : Lexes rest tokens) :
      Lexes (gap ++ (text ++ rest)) (token :: tokens)

theorem Lexes.space {c : Char} {cs : List Char} {tokens : List Token} (space : isSpace c = true)
    (lexes : Lexes cs tokens) : Lexes (c :: cs) tokens := by
  cases lexes with
  | nil blank => exact .nil (isGap_cons space blank)
  | @cons gap _ _ _ _ blank lexeme others =>
      rw [← List.cons_append]
      exact .cons (isGap_cons space blank) lexeme others

/-- A text that is cut into tokens is made of their texts. -/
theorem lexes_of_readTokens {fuel : Nat} {cs : List Char} {tokens : List Token}
    (read : readTokens fuel cs = some tokens) : Lexes cs tokens := by
  induction fuel generalizing cs tokens with
  | zero =>
      cases cs with
      | nil =>
          cases read
          exact .nil isGap_nil
      | cons c rest => cases read
  | succ fuel ih =>
      cases cs with
      | nil =>
          cases read
          exact .nil isGap_nil
      | cons c rest =>
          rw [readTokens] at read
          split at read
          · rename_i space
            exact (ih read).space space
          · split at read
            · rename_i token behind taken
              obtain ⟨others, reads, rfl⟩ := Option.map_eq_some_iff.mp read
              obtain ⟨text, lexeme, whole⟩ := exists_lexeme c rest _ taken
              rw [whole]
              exact .cons isGap_nil lexeme (ih reads)
            · cases read

end Json
end SqlGate
