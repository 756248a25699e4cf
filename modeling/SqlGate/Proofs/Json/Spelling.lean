import SqlGate.Json.Tree
import SqlGate.Proofs.Json.Numbers

namespace SqlGate
namespace Json

/-!
# Texts of trees

The texts of JSON, told by what they are made of: words, numbers, strings, and
lists and objects whose items and fields are texts with commas between them.
Blanks may stand around every text and every key.  A text that is made so is
read as the tree it is made for.
-/

/-- A text with nothing but blanks around a part of it. -/
def Padded (inside whole : List Char) : Prop :=
  ∃ before after, IsGap before ∧ IsGap after ∧ whole = before ++ (inside ++ after)

def SpellsKey (cs : List Char) (key : Option String) : Prop :=
  ∃ inside, Quotes inside key ∧ Padded ('"' :: (inside ++ ['"'])) cs

/-- Texts with commas between them. -/
def commas : List (List Char) -> List Char
  | [] => []
  | [cs] => cs
  | cs :: next :: rest => cs ++ ',' :: commas (next :: rest)

/-- A field of an object as it is written. -/
structure FieldText where
  name : List Char
  key : Option String
  value : List Char
  tree : Tree

def FieldText.chars (field : FieldText) : List Char :=
  field.name ++ ':' :: field.value

def FieldText.entry (field : FieldText) : Option String × Tree :=
  (field.key, field.tree)

/-- A text and the tree that it writes. -/
inductive Spells : List Char -> Tree -> Prop
  | wordNull : Spells ['n', 'u', 'l', 'l'] .null
  | wordTrue : Spells ['t', 'r', 'u', 'e'] (.bool true)
  | wordFalse : Spells ['f', 'a', 'l', 's', 'e'] (.bool false)
  | number (number : NumberText) : Spells number.chars (.number number.literal.value?)
  | string {inside : List Char} {value : Option String} (quotes : Quotes inside value) :
      Spells ('"' :: (inside ++ ['"'])) (.text value)
  | emptyList {gap : List Char} (blank : IsGap gap) : Spells ('[' :: (gap ++ [']'])) (.list [])
  | list {items : List (List Char × Tree)} (each : ∀ item ∈ items, Spells item.1 item.2)
      (some : items ≠ []) :
      Spells ('[' :: (commas (items.map Prod.fst) ++ [']'])) (.list (items.map Prod.snd))
  | emptyObject {gap : List Char} (blank : IsGap gap) :
      Spells ('\x7b' :: (gap ++ ['\x7d'])) (.object [])
  | object {fields : List FieldText} (keys : ∀ field ∈ fields, SpellsKey field.name field.key)
      (each : ∀ field ∈ fields, Spells field.value field.tree) (some : fields ≠ []) :
      Spells ('\x7b' :: (commas (fields.map FieldText.chars) ++ ['\x7d']))
        (.object (fields.map FieldText.entry))
  | padded {inside whole : List Char} {tree : Tree} (spelled : Spells inside tree)
      (padded : Padded inside whole) : Spells whole tree

/-! ## Trees from tokens -/

namespace Tree

/-- Whether tokens are a value with a tree wherever a value may stand. -/
def Make (tokens : List Token) (tree : Tree) : Prop :=
  ∀ stack expected behind, expected = .value ∨ expected = .item ->
    run ⟨stack, expected⟩ (tokens ++ behind) = run ⟨stack, .after tree⟩ behind

/-- Whether tokens are the items of a list, up to its end. -/
def MakeItems (tokens : List Token) (trees : List Tree) : Prop :=
  ∀ stack done expected behind, expected = .value ∨ expected = .item ->
    run ⟨.list done :: stack, expected⟩ (tokens ++ .closeList :: behind)
      = run ⟨stack, .after (.list (done.reverse ++ trees))⟩ behind

/-- Whether tokens are the fields of an object, up to its end. -/
def MakeFields (tokens : List Token) (trees : List (Option String × Tree)) : Prop :=
  ∀ stack done behind,
    run ⟨stack, .key done⟩ (tokens ++ .closeObject :: behind)
      = run ⟨stack, .after (.object (done.reverse ++ trees))⟩ behind

theorem step_of_item {stack : List Frame} {token : Token} (noEnd : token ≠ .closeList) :
    step ⟨stack, .item⟩ token = startValue stack token := by
  cases token with
  | closeList => exact absurd rfl noEnd
  | _ =>
      cases stack with
      | nil => rfl
      | cons frame stack => cases frame <;> rfl

theorem run_of_step {state next : State} {token : Token} (stepped : step state token = some next)
    (behind : List Token) : run state (token :: behind) = run next behind := by
  rw [run, stepped]

/-- A value begins in the same way wherever it may stand. -/
theorem run_of_start {stack : List Frame} {expected : Expected} {token : Token} {next : State}
    (place : expected = .value ∨ expected = .item) (behind : List Token)
    (starts : startValue stack token = some next) :
    run ⟨stack, expected⟩ (token :: behind) = run next behind := by
  have noEnd : token ≠ .closeList := by
    rintro rfl
    cases starts
  have stepped : step ⟨stack, expected⟩ token = some next := by
    rcases place with rfl | rfl
    · exact starts
    · exact (step_of_item noEnd).trans starts
  exact run_of_step stepped behind

theorem make_null : Make [.null] .null :=
  fun _ _ behind place => run_of_start place behind rfl

theorem make_bool (b : Bool) : Make [.bool b] (.bool b) :=
  fun _ _ behind place => run_of_start place behind rfl

theorem make_number (n : Option Numeral) : Make [.number n] (.number n) :=
  fun _ _ behind place => run_of_start place behind rfl

theorem make_text (s : Option String) : Make [.text s] (.text s) :=
  fun _ _ behind place => run_of_start place behind rfl

theorem make_emptyList : Make [.openList, .closeList] (.list []) := by
  intro stack expected behind place
  exact (run_of_start place _ rfl).trans (run_of_step rfl behind)

theorem make_list {tokens : List Token} {trees : List Tree} (items : MakeItems tokens trees) :
    Make (.openList :: (tokens ++ [.closeList])) (.list trees) := by
  intro stack expected behind place
  rw [List.cons_append, List.append_assoc, List.singleton_append, run_of_start place _ rfl]
  exact items stack [] .item behind (.inr rfl)

theorem make_emptyObject : Make [.openObject, .closeObject] (.object []) := by
  intro stack expected behind place
  exact (run_of_start place _ rfl).trans (run_of_step rfl behind)

theorem make_object {tokens : List Token} {trees : List (Option String × Tree)}
    (fields : MakeFields tokens trees) :
    Make (.openObject :: (tokens ++ [.closeObject])) (.object trees) := by
  intro stack expected behind place
  rw [List.cons_append, List.append_assoc, List.singleton_append, run_of_start place _ rfl]
  exact fields stack [] behind

theorem makeItems_last {tokens : List Token} {tree : Tree} (item : Make tokens tree) :
    MakeItems tokens [tree] := by
  intro stack done expected behind place
  rw [item _ expected _ place, ← List.reverse_cons]
  exact run_of_step rfl behind

theorem makeItems_cons {tokens others : List Token} {tree : Tree} {trees : List Tree}
    (item : Make tokens tree) (rest : MakeItems others trees) :
    MakeItems (tokens ++ .comma :: others) (tree :: trees) := by
  intro stack done expected behind place
  have next := rest stack (tree :: done) .value behind (.inl rfl)
  rw [List.reverse_cons, List.append_assoc, List.singleton_append] at next
  rw [List.append_assoc, List.cons_append, item _ expected _ place, ← next]
  exact run_of_step rfl _

/-- A key and its value behind a colon. -/
theorem run_field {tokens : List Token} {tree : Tree} (value : Make tokens tree)
    (stack : List Frame) (done : List (Option String × Tree)) (key : Option String)
    (behind : List Token) :
    run ⟨stack, .key done⟩ (.text key :: .colon :: (tokens ++ behind))
      = run ⟨.object done key :: stack, .after tree⟩ behind := by
  rw [← value _ .value _ (.inl rfl), run]
  cases done <;> rfl

theorem makeFields_last {tokens : List Token} {key : Option String} {tree : Tree}
    (value : Make tokens tree) : MakeFields (.text key :: .colon :: tokens) [(key, tree)] := by
  intro stack done behind
  rw [List.cons_append, List.cons_append, run_field value, ← List.reverse_cons]
  exact run_of_step rfl behind

theorem makeFields_cons {tokens others : List Token} {key : Option String} {tree : Tree}
    {trees : List (Option String × Tree)} (value : Make tokens tree)
    (rest : MakeFields others trees) :
    MakeFields (.text key :: .colon :: (tokens ++ .comma :: others)) ((key, tree) :: trees) := by
  intro stack done behind
  have next := rest stack ((key, tree) :: done) behind
  rw [List.reverse_cons, List.append_assoc, List.singleton_append] at next
  rw [List.cons_append, List.cons_append, List.append_assoc, List.cons_append, run_field value,
    ← next]
  exact run_of_step rfl _

end Tree

/-! ## Tokens of a text -/

/-- Whether a text is cut into tokens, whatever follows that goes on with no number. -/
def Cuts (cs : List Char) (tokens : List Token) : Prop :=
  ∀ rest, Closes rest -> tokens? (cs ++ rest) = (tokens? rest).map (tokens ++ ·)

section

variable {cs others : List Char} {tokens more : List Token}

theorem closes_comma (rest : List Char) : Closes (',' :: rest) :=
  closes_cons (by decide) rest

theorem cuts_nil : Cuts [] [] := by
  intro rest closes
  cases found : tokens? rest <;> simp [found]

theorem cuts_list (inside : Cuts cs tokens) :
    Cuts ('[' :: (cs ++ [']'])) (.openList :: (tokens ++ [.closeList])) := by
  intro rest closes
  rw [List.cons_append, List.append_assoc, List.singleton_append, tokens?_openList,
    inside _ (closes_cons (by decide) rest), tokens?_closeList]
  cases tokens? rest <;> simp

theorem cuts_object (inside : Cuts cs tokens) :
    Cuts ('\x7b' :: (cs ++ ['\x7d'])) (.openObject :: (tokens ++ [.closeObject])) := by
  intro rest closes
  rw [List.cons_append, List.append_assoc, List.singleton_append, tokens?_openObject,
    inside _ (closes_cons (by decide) rest), tokens?_closeObject]
  cases tokens? rest <;> simp

theorem cuts_comma (first : Cuts cs tokens) (behind : Cuts others more) :
    Cuts (cs ++ ',' :: others) (tokens ++ .comma :: more) := by
  intro rest closes
  rw [List.append_assoc, List.cons_append, first _ (closes_comma _), tokens?_comma,
    behind rest closes]
  cases tokens? rest <;> simp

theorem cuts_colon {key : Option String} (name : Cuts cs [.text key]) (value : Cuts others tokens) :
    Cuts (cs ++ ':' :: others) (.text key :: .colon :: tokens) := by
  intro rest closes
  rw [List.append_assoc, List.cons_append, name _ (closes_cons (by decide) _), tokens?_colon,
    value rest closes]
  cases tokens? rest <;> rfl

end

theorem cuts_null : Cuts ['n', 'u', 'l', 'l'] [.null] := fun rest _ => tokens?_null rest

theorem cuts_bool (b : Bool) : Cuts (writeBool b) [.bool b] := fun rest _ => tokens?_writeBool b rest

/-! ## Blanks -/

section

variable {cs others : List Char} {tokens more : List Token}

theorem cuts_gap {gap : List Char} (blank : IsGap gap) : Cuts gap [] := by
  intro rest closes
  rw [tokens?_gap blank]
  exact cuts_nil rest closes

theorem Cuts.padded (cut : Cuts cs tokens) {whole : List Char} (padded : Padded cs whole) :
    Cuts whole tokens := by
  obtain ⟨before, after, front, behind, rfl⟩ := padded
  intro rest closes
  rw [List.append_assoc, List.append_assoc, tokens?_gap front, cut _ (closes_gap behind closes),
    tokens?_gap behind]

end

/-! ## Trees of texts -/

theorem cuts_chars (number : NumberText) : Cuts number.chars [.number number.literal.value?] :=
  fun _ => number.tokens?_chars

theorem Quotes.cuts {inside : List Char} {value : Option String} (quotes : Quotes inside value) :
    Cuts ('"' :: (inside ++ ['"'])) [.text value] := by
  intro rest _
  rw [List.cons_append, List.append_assoc, List.singleton_append]
  exact quotes.tokens? rest

theorem SpellsKey.cuts {cs : List Char} {key : Option String} (spelled : SpellsKey cs key) :
    Cuts cs [.text key] := by
  obtain ⟨inside, quotes, padded⟩ := spelled
  exact quotes.cuts.padded padded

-- Both halves are needed together: the tokens are known only from the text.
def Parses (cs : List Char) (tree : Tree) : Prop :=
  ∃ tokens, Cuts cs tokens ∧ Tree.Make tokens tree

theorem exists_itemTokens_of_parses {items : List (List Char × Tree)} (some : items ≠ [])
    (each : ∀ item ∈ items, Parses item.1 item.2) :
    ∃ tokens, Cuts (commas (items.map Prod.fst)) tokens
      ∧ Tree.MakeItems tokens (items.map Prod.snd) := by
  induction items with
  | nil => exact absurd rfl some
  | cons item rest ih =>
      obtain ⟨tokens, cut, make⟩ := each item List.mem_cons_self
      cases rest with
      | nil => exact ⟨tokens, cut, Tree.makeItems_last make⟩
      | cons next rest =>
          obtain ⟨more, cuts, makes⟩ := ih (List.cons_ne_nil _ _) fun other member =>
            each other (List.mem_cons_of_mem item member)
          exact ⟨_, cuts_comma cut cuts, Tree.makeItems_cons make makes⟩

theorem exists_fieldTokens_of_parses {fields : List FieldText} (some : fields ≠ [])
    (keys : ∀ field ∈ fields, SpellsKey field.name field.key)
    (each : ∀ field ∈ fields, Parses field.value field.tree) :
    ∃ tokens, Cuts (commas (fields.map FieldText.chars)) tokens
      ∧ Tree.MakeFields tokens (fields.map FieldText.entry) := by
  induction fields with
  | nil => exact absurd rfl some
  | cons field rest ih =>
      have key := (keys field List.mem_cons_self).cuts
      obtain ⟨tokens, cut, make⟩ := each field List.mem_cons_self
      cases rest with
      | nil => exact ⟨_, cuts_colon key cut, Tree.makeFields_last make⟩
      | cons next rest =>
          obtain ⟨more, cuts, makes⟩ := ih (List.cons_ne_nil _ _)
            (fun other member => keys other (List.mem_cons_of_mem field member))
            fun other member => each other (List.mem_cons_of_mem field member)
          exact ⟨_, cuts_comma (cuts_colon key cut) cuts, Tree.makeFields_cons make makes⟩

/-- A text is cut into tokens that make the tree it writes. -/
theorem Spells.parses {cs : List Char} {tree : Tree} (spelled : Spells cs tree) :
    Parses cs tree := by
  induction spelled with
  | wordNull => exact ⟨_, cuts_null, Tree.make_null⟩
  | wordTrue => exact ⟨_, cuts_bool true, Tree.make_bool true⟩
  | wordFalse => exact ⟨_, cuts_bool false, Tree.make_bool false⟩
  | number number => exact ⟨_, cuts_chars number, Tree.make_number _⟩
  | string quotes => exact ⟨_, quotes.cuts, Tree.make_text _⟩
  | emptyList blank => exact ⟨_, cuts_list (cuts_gap blank), Tree.make_emptyList⟩
  | list _ some each =>
      obtain ⟨tokens, cut, make⟩ := exists_itemTokens_of_parses some each
      exact ⟨_, cuts_list cut, Tree.make_list make⟩
  | emptyObject blank => exact ⟨_, cuts_object (cuts_gap blank), Tree.make_emptyObject⟩
  | object keys _ some each =>
      obtain ⟨tokens, cut, make⟩ := exists_fieldTokens_of_parses some keys each
      exact ⟨_, cuts_object cut, Tree.make_object make⟩
  | padded _ padded ih =>
      obtain ⟨tokens, cut, make⟩ := ih
      exact ⟨tokens, cut.padded padded, make⟩

/-- A text is read as the tree it writes. -/
theorem Spells.parse? {s : String} {tree : Tree} (spelled : Spells s.toList tree) :
    Tree.parse? s = some tree := by
  obtain ⟨tokens, cut, make⟩ := spelled.parses
  have alone := cut [] closes_nil
  have made := make [] .value [] (.inl rfl)
  rw [List.append_nil] at alone made
  rw [Tree.parse?, alone]
  change Tree.ofTokens? (tokens ++ []) = _
  rw [List.append_nil, Tree.ofTokens?, made]
  rfl

end Json
end SqlGate
