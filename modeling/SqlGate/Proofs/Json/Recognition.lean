import SqlGate.Proofs.Json.Spelling

namespace SqlGate
namespace Json

/-!
# Nothing else is read

Whatever state the machine comes to, the text in front of it is made of what is
still open and of what was read last.  So a text that is read is the text of
the tree that it is read as, and the texts of JSON are exactly those that are
read.
-/

/-! ## Blanks around what is read -/

theorem Spells.behind {cs gap : List Char} {tree : Tree} (spelled : Spells cs tree)
    (blank : IsGap gap) : Spells (cs ++ gap) tree :=
  .padded spelled ⟨[], gap, isGap_nil, blank, rfl⟩

theorem Spells.front {cs gap : List Char} {tree : Tree} (spelled : Spells cs tree)
    (blank : IsGap gap) : Spells (gap ++ cs) tree :=
  .padded spelled ⟨gap, [], blank, isGap_nil, by rw [List.append_nil]⟩

theorem SpellsKey.behind {cs gap : List Char} {key : Option String} (spelled : SpellsKey cs key)
    (blank : IsGap gap) : SpellsKey (cs ++ gap) key := by
  obtain ⟨inside, quotes, before, after, front, behind, rfl⟩ := spelled
  refine ⟨inside, quotes, before, after ++ gap, front, behind.append blank, ?_⟩
  simp only [List.append_assoc]

/-! ## What the machine has read -/

/-- Texts each with a comma behind it. -/
def followed (texts : List (List Char)) : List Char :=
  texts.flatMap fun cs => cs ++ [',']

theorem followed_cons (cs : List Char) (rest : List (List Char)) :
    followed (cs :: rest) = cs ++ ',' :: followed rest := by
  rw [followed, List.flatMap_cons, List.append_assoc]
  rfl

theorem followed_concat (texts : List (List Char)) (last : List Char) :
    followed (texts ++ [last]) = followed texts ++ (last ++ [',']) := by
  rw [followed, List.flatMap_append, List.flatMap_singleton]
  rfl

theorem commas_concat (texts : List (List Char)) (last : List Char) :
    commas (texts ++ [last]) = followed texts ++ last := by
  induction texts with
  | nil => rfl
  | cons cs rest ih =>
      have more : commas (cs :: (rest ++ [last])) = cs ++ ',' :: commas (rest ++ [last]) := by
        cases rest <;> rfl
      rw [List.cons_append, more, ih, followed_cons, List.append_assoc, List.cons_append]

/-- Fields as they are written, each with its key and its value. -/
structure AreFields (fields : List FieldText) : Prop where
  keys : ∀ field ∈ fields, SpellsKey field.name field.key
  values : ∀ field ∈ fields, Spells field.value field.tree

/-- The text that opened lists and objects, the innermost last; a frame holds what was read of it
in the opposite order. -/
inductive Opened : List Char -> List Tree.Frame -> Prop
  | nil : Opened [] []
  | list {cs gap : List Char} {stack : List Tree.Frame} {items : List (List Char × Tree)}
      (opened : Opened cs stack) (blank : IsGap gap) (each : ∀ item ∈ items, Spells item.1 item.2) :
      Opened (cs ++ (gap ++ '[' :: followed (items.map Prod.fst)))
        (.list (items.map Prod.snd).reverse :: stack)
  | object {cs gap name : List Char} {stack : List Tree.Frame} {fields : List FieldText}
      {key : Option String} (opened : Opened cs stack) (blank : IsGap gap)
      (areFields : AreFields fields) (named : SpellsKey name key) :
      Opened (cs ++ (gap ++ '\x7b' :: (followed (fields.map FieldText.chars) ++ (name ++ [':']))))
        (.object (fields.map FieldText.entry).reverse key :: stack)

/-- The text in front of a state. -/
inductive Reaches : List Char -> Tree.State -> Prop
  | value {cs : List Char} {stack : List Tree.Frame} (opened : Opened cs stack) :
      Reaches cs ⟨stack, .value⟩
  | item {cs gap : List Char} {stack : List Tree.Frame} (opened : Opened cs stack)
      (blank : IsGap gap) : Reaches (cs ++ (gap ++ ['['])) ⟨.list [] :: stack, .item⟩
  | key {cs gap : List Char} {stack : List Tree.Frame} {fields : List FieldText}
      (opened : Opened cs stack) (blank : IsGap gap) (areFields : AreFields fields) :
      Reaches (cs ++ (gap ++ '\x7b' :: followed (fields.map FieldText.chars)))
        ⟨stack, .key (fields.map FieldText.entry).reverse⟩
  | colon {cs gap name : List Char} {stack : List Tree.Frame} {fields : List FieldText}
      {key : Option String} (opened : Opened cs stack) (blank : IsGap gap)
      (areFields : AreFields fields) (named : SpellsKey name key) :
      Reaches (cs ++ (gap ++ '\x7b' :: (followed (fields.map FieldText.chars) ++ name)))
        ⟨stack, .colon (fields.map FieldText.entry).reverse key⟩
  | after {cs text : List Char} {stack : List Tree.Frame} {tree : Tree} (opened : Opened cs stack)
      (spelled : Spells text tree) : Reaches (cs ++ text) ⟨stack, .after tree⟩

section

variable {cs gap text : List Char} {stack : List Tree.Frame} {token : Token} {next : Tree.State}

/-- A value begins, or is there at once. -/
theorem reaches_of_startValue (opened : Opened cs stack) (blank : IsGap gap)
    (lexeme : Lexeme text token) (starts : Tree.startValue stack token = some next) :
    Reaches (cs ++ (gap ++ text)) next := by
  cases lexeme with
  | openList =>
      cases starts
      exact .item opened blank
  | openObject =>
      cases starts
      exact @Reaches.key _ _ _ [] opened blank ⟨List.forall_mem_nil _, List.forall_mem_nil _⟩
  | null =>
      cases starts
      exact .after opened (Spells.wordNull.front blank)
  | wordTrue =>
      cases starts
      exact .after opened (Spells.wordTrue.front blank)
  | wordFalse =>
      cases starts
      exact .after opened (Spells.wordFalse.front blank)
  | number number =>
      cases starts
      exact .after opened ((Spells.number number).front blank)
  | string quotes =>
      cases starts
      exact .after opened ((Spells.string quotes).front blank)
  | closeList | closeObject | comma | colon => cases starts

theorem reaches_of_item {items : List (List Char × Tree)} {value : List Char} {tree : Tree}
    {before : List Char} (opened : Opened cs stack) (front : IsGap before)
    (each : ∀ item ∈ items, Spells item.1 item.2) (spelled : Spells value tree)
    (blank : IsGap gap) (lexeme : Lexeme text token)
    (steps : Tree.step ⟨.list (items.map Prod.snd).reverse :: stack, .after tree⟩ token
      = some next) :
    Reaches (cs ++ (before ++ '[' :: followed (items.map Prod.fst)) ++ value ++ (gap ++ text))
      next := by
  -- The blanks in front of the token belong to the item that stands before them.
  have all : ∀ item ∈ items ++ [(value ++ gap, tree)], Spells item.1 item.2 :=
    List.forall_mem_append.mpr ⟨each, List.forall_mem_singleton.mpr (spelled.behind blank)⟩
  cases lexeme with
  | comma =>
      cases steps
      have opens := Opened.list opened front all
      simp only [List.map_append, List.map_singleton, followed_concat, List.reverse_append,
        List.reverse_singleton, List.singleton_append] at opens
      simpa only [List.append_assoc, List.cons_append] using Reaches.value opens
  | closeList =>
      cases steps
      have closed := (Spells.list all (List.concat_ne_nil _ _)).front front
      simp only [List.map_append, List.map_singleton, commas_concat] at closed
      simpa only [List.append_assoc, List.cons_append, List.reverse_cons, List.reverse_reverse]
        using Reaches.after opened closed
  | _ => cases steps

theorem reaches_of_field {fields : List FieldText} {name value before : List Char}
    {key : Option String} {tree : Tree} (opened : Opened cs stack)
    (front : IsGap before) (areFields : AreFields fields)
    (named : SpellsKey name key) (spelled : Spells value tree)
    (blank : IsGap gap) (lexeme : Lexeme text token)
    (steps : Tree.step ⟨.object (fields.map FieldText.entry).reverse key :: stack, .after tree⟩ token
      = some next) :
    Reaches (cs ++ (before ++ '\x7b' :: (followed (fields.map FieldText.chars) ++ (name ++ [':'])))
      ++ value ++ (gap ++ text)) next := by
  let field : FieldText := ⟨name, key, value ++ gap, tree⟩
  have all : AreFields (fields ++ [field]) :=
    ⟨List.forall_mem_append.mpr ⟨areFields.keys, List.forall_mem_singleton.mpr named⟩,
      List.forall_mem_append.mpr
        ⟨areFields.values, List.forall_mem_singleton.mpr (spelled.behind blank)⟩⟩
  cases lexeme with
  | comma =>
      cases steps
      have goesOn := Reaches.key opened front all
      simp only [List.map_append, List.map_singleton, followed_concat, List.reverse_append,
        List.reverse_singleton, List.singleton_append, field, FieldText.chars,
        FieldText.entry] at goesOn
      simpa only [List.append_assoc, List.cons_append, List.nil_append] using goesOn
  | closeObject =>
      cases steps
      have closed := (Spells.object all.keys all.values (List.concat_ne_nil _ _)).front front
      simp only [List.map_append, List.map_singleton, commas_concat, field, FieldText.chars,
        FieldText.entry] at closed
      simpa only [List.append_assoc, List.cons_append, List.nil_append, List.reverse_cons,
        List.reverse_reverse] using Reaches.after opened closed
  | _ => cases steps

/-- One token more is read, with the blanks in front of it. -/
theorem Reaches.step {state : Tree.State} (reaches : Reaches cs state)
    (blank : IsGap gap) (lexeme : Lexeme text token)
    (steps : Tree.step state token = some next) : Reaches (cs ++ (gap ++ text)) next := by
  cases reaches with
  | value opened => exact reaches_of_startValue opened blank lexeme steps
  | @item cs before stack opened front =>
      by_cases ends : token = .closeList
      · subst ends
        cases lexeme
        cases steps
        have closed := (Spells.emptyList blank).front front
        simpa only [List.append_assoc, List.cons_append, List.nil_append]
          using Reaches.after opened closed
      · rw [Tree.step_of_item ends] at steps
        have opens := @Opened.list _ _ _ [] opened front (List.forall_mem_nil _)
        exact reaches_of_startValue opens blank lexeme steps
  | @key cs before stack fields opened front areFields =>
      cases lexeme with
      | @string inside key quotes =>
          -- The rule for a key does not look at the fields that were read.
          have keyed : Tree.step ⟨stack, .key (fields.map FieldText.entry).reverse⟩ (.text key)
              = some ⟨stack, .colon (fields.map FieldText.entry).reverse key⟩ := rfl
          obtain rfl := Option.some.inj (keyed.symm.trans steps)
          have named : SpellsKey (gap ++ '"' :: (inside ++ ['"'])) key :=
            ⟨inside, quotes, gap, [], blank, isGap_nil, by rw [List.append_nil]⟩
          simpa only [List.append_assoc, List.cons_append]
            using Reaches.colon opened front areFields named
      | closeObject =>
          cases fields with
          | nil =>
              cases steps
              have closed := (Spells.emptyObject blank).front front
              have nothing : followed ([].map FieldText.chars) = [] := rfl
              simpa only [nothing, List.append_assoc, List.cons_append, List.nil_append]
                using Reaches.after opened closed
          | cons field rest =>
              -- Behind a comma another key is due, and no end.
              obtain ⟨last, others, shape⟩ : ∃ last others,
                  ((field :: rest).map FieldText.entry).reverse = last :: others :=
                List.exists_cons_of_ne_nil (by simp)
              rw [shape] at steps
              cases steps
      | _ => cases steps
  | @colon cs before name stack fields key opened front areFields named =>
      cases lexeme with
      | colon =>
          cases steps
          have opens := Opened.object opened front areFields (named.behind blank)
          simpa only [List.append_assoc, List.cons_append] using Reaches.value opens
      | _ => cases steps
  | after opened spelled =>
      cases opened with
      | nil => cases steps
      | list opened front each => exact reaches_of_item opened front each spelled blank lexeme steps
      | object opened front areFields named =>
          exact reaches_of_field opened front areFields named spelled blank lexeme steps

/-- The tokens of a text are read one after another. -/
theorem Reaches.run {state last : Tree.State} {behind : List Char} {tokens : List Token}
    (reaches : Reaches cs state) (lexes : Lexes behind tokens)
    (runs : Tree.run state tokens = some last) :
    ∃ read gap, Reaches read last ∧ IsGap gap ∧ cs ++ behind = read ++ gap := by
  -- By induction on the tokens, with the text that was read growing by one of them in each step.
  induction lexes generalizing cs state with
  | nil blank =>
      cases runs
      exact ⟨cs, _, reaches, blank, rfl⟩
  | @cons gap text rest token tokens blank lexeme _ ih =>
      rw [Tree.run] at runs
      split at runs
      · rename_i next steps
        obtain ⟨read, behind, reached, blanks, whole⟩ := ih (reaches.step blank lexeme steps) runs
        refine ⟨read, behind, reached, blanks, ?_⟩
        rw [← whole]
        simp only [List.append_assoc]
      · cases runs

end

/-- The texts that are read are exactly those that write a tree, and they are read as this tree. -/
theorem parse?_eq_some_iff {s : String} {tree : Tree} :
    Tree.parse? s = some tree ↔ Spells s.toList tree := by
  refine ⟨?_, Spells.parse?⟩
  intro parsed
  obtain ⟨tokens, cut, made⟩ := Option.bind_eq_some_iff.mp parsed
  have lexes := lexes_of_readTokens cut
  rw [Tree.ofTokens?] at made
  split at made
  · rename_i runs
    cases made
    obtain ⟨read, gap, reached, blank, whole⟩ := (Reaches.value .nil).run lexes runs
    cases reached with
    | after opened spelled =>
        cases opened
        rw [List.nil_append, List.nil_append] at whole
        rw [whole]
        exact spelled.behind blank
  · cases made

end Json
end SqlGate
