import SqlGate.Proofs.Query.Layout

namespace SqlGate

/-!
# Reading placeholders back

A statement reaches the database as a text and a list of parameters.  Whoever
reads the text finds its placeholders by looking for dollar signs with digits
behind them, and takes as many digits as there are.  The reader here does just
that: it knows nothing of templates.

Its result is compared with the template that the statement was written from.
Provided that no text taken over from the caller holds a dollar sign, the
placeholders found are numbered from one without a gap up to the number of
parameters, and putting each parameter in the place of the placeholder of its
number gives back the text of the template with its values in place.  A number
read too long, which would happen if a digit stood behind a placeholder, is
excluded by the layout of the clauses.
-/

/-! ## A reader of statements -/

/-- What a reader finds in the text of a statement. -/
inductive Mark where
  /-- A character that belongs to no placeholder. -/
  | character (c : Char)
  | placeholder (number : Nat)
deriving DecidableEq, Repr

/-- What stands in a statement once its values are in their places. -/
inductive Slot where
  /-- A character of the text. -/
  | character (c : Char)
  | value (v : Value)
deriving DecidableEq

namespace Mark

/-- Read a text from left to right: a dollar sign with digits behind it is a placeholder,
and all the digits belong to it. -/
def read : List Char -> List Mark
  | [] => []
  | c :: rest =>
      if c = '$' ∧ rest.takeWhile Char.isDigit ≠ [] then
        .placeholder (Nat.ofDigitChars 10 (rest.takeWhile Char.isDigit) 0)
          :: read (rest.dropWhile Char.isDigit)
      else .character c :: read rest
termination_by text => text.length
decreasing_by
  · exact Nat.lt_succ_of_le (List.dropWhile_sublist Char.isDigit).length_le
  · exact Nat.lt_succ_self rest.length

def numbers (marks : List Mark) : List Nat :=
  marks.filterMap fun
    | .placeholder number => some number
    | .character _ => none

/-- What a mark stands for: a placeholder for the parameter of its number, counted from one. -/
def resolve (params : List Value) : Mark -> Option Slot
  | .character c => some (.character c)
  | .placeholder 0 => none
  | .placeholder (n + 1) => params[n]?.map .value

/-- Characters without a dollar sign are read one by one, whatever comes behind. -/
theorem read_characters {cs : List Char} (noDollar : '$' ∉ cs) (behind : List Char) :
    read (cs ++ behind) = cs.map character ++ read behind := by
  induction cs with
  | nil => rfl
  | cons c rest ih =>
      have parts := not_or.mp (mt List.mem_cons.mpr noDollar)
      rw [List.cons_append, read, if_neg fun found => parts.1 found.1.symm, ih parts.2]
      rfl

/-- A placeholder is read as one as long as no digit comes behind. -/
theorem read_placeholder (number : Nat) {behind : List Char}
    (ends : behind.takeWhile Char.isDigit = []) :
    read ((Placeholder.mk number).write ++ behind) = .placeholder number :: read behind := by
  have digits : ∀ c ∈ Text.ofNat number, c.isDigit = true := fun c member =>
    Nat.isDigit_of_mem_toDigits (by decide) (by decide) member
  have taken : (Text.ofNat number ++ behind).takeWhile Char.isDigit = Text.ofNat number := by
    rw [List.takeWhile_append_of_pos digits, ends, List.append_nil]
  have left : (Text.ofNat number ++ behind).dropWhile Char.isDigit = behind := by
    rw [List.dropWhile_append_of_pos digits]
    simpa [ends] using List.takeWhile_append_dropWhile (l := behind) (p := Char.isDigit)
  rw [Placeholder.write, List.cons_append, read, taken, left,
    if_pos ⟨rfl, Nat.toDigits_ne_nil⟩]
  exact congrArg (fun n => Mark.placeholder n :: read behind) Nat.ofDigitChars_ten_toDigits

end Mark

namespace Template

/-! ## What a template is read as -/

/-- The marks of a template whose first placeholder has the number `next`. -/
def marks (next : Nat) : Template -> List Mark
  | [] => []
  | .text s :: rest => s.toList.map .character ++ marks next rest
  | .fragment s :: rest => s.toList.map .character ++ marks next rest
  | .bound _ :: rest => .placeholder next :: marks (next + 1) rest

/-- The text of a template with its values in place. -/
def slots : Template -> List Slot
  | [] => []
  | .text s :: rest => s.toList.map .character ++ slots rest
  | .fragment s :: rest => s.toList.map .character ++ slots rest
  | .bound v :: rest => .value v :: slots rest

/-- What may stand behind a value begins with no digit. -/
theorem takeWhile_write {template : Template}
    (plain : ∀ s, Piece.text s ∈ template -> isPlain s = true) (opening : template.opens = true)
    (next : Nat) : (template.write next).takeWhile Char.isDigit = [] := by
  cases template with
  | nil => rfl
  | cons piece rest =>
      cases piece with
      | fragment s => cases opening
      | bound v => rfl
      | text s =>
          have begins := (Bool.and_eq_true_iff.mp (plain s List.mem_cons_self)).1
          rw [write]
          cases letters : s.toList with
          | nil => rw [letters] at begins; cases begins
          | cons c cs =>
              rw [letters] at begins
              have notDigit : c.isDigit = false := by simpa using begins
              simp [notDigit]

/-- The text of a template is read as its marks.  The induction is over the pieces; the
layout says at each value that the digits of its number end where they should. -/
theorem read_write {template : Template}
    (plain : ∀ s, Piece.text s ∈ template -> isPlain s = true)
    (spaced : template.isSpaced = true) (clean : ∀ s ∈ template.taken, '$' ∉ s.toList)
    (next : Nat) : Mark.read (template.write next) = template.marks next := by
  induction template generalizing next with
  | nil => rw [write, Mark.read, marks]
  | cons piece rest ih =>
      have plainBehind : ∀ s, Piece.text s ∈ rest -> isPlain s = true :=
        fun s member => plain s (List.mem_cons_of_mem _ member)
      cases piece with
      | text s =>
          have noDollar : '$' ∉ s.toList := by
            have found := (Bool.and_eq_true_iff.mp (plain s List.mem_cons_self)).2
            simpa using found
          rw [write, marks, Mark.read_characters noDollar, ih plainBehind spaced clean]
      | fragment s =>
          have noDollar := clean s List.mem_cons_self
          have cleanBehind : ∀ t ∈ taken rest, '$' ∉ t.toList :=
            fun t member => clean t (List.mem_cons_of_mem _ member)
          rw [write, marks, Mark.read_characters noDollar, ih plainBehind spaced cleanBehind]
      | bound v =>
          have parts := Bool.and_eq_true_iff.mp spaced
          rw [write, marks, Mark.read_placeholder next (takeWhile_write plainBehind parts.1 _),
            ih plainBehind parts.2 clean]

/-- The placeholders of a template are numbered without a gap. -/
theorem numbers_marks (template : Template) (next : Nat) :
    Mark.numbers (template.marks next) = List.range' next template.params.length := by
  have characters : ∀ (cs : List Char) (others : List Mark),
      Mark.numbers (cs.map .character ++ others) = Mark.numbers others := by
    intro cs others
    induction cs with
    | nil => rfl
    | cons c rest ih => exact ih
  induction template generalizing next with
  | nil => rfl
  | cons piece rest ih =>
      cases piece with
      | text s => rw [marks, characters, ih, params_text]
      | fragment s => rw [marks, characters, ih, params_fragment]
      | bound v =>
          rw [params_bound, List.length_cons, List.range'_succ, ← ih]
          rfl

/-- Parameters in the places of their placeholders give the text with its values in place.
Parameters `front` stand for values that were bound before. -/
theorem resolve_marks (template : Template) (front : List Value) :
    (template.marks (front.length + 1)).map (Mark.resolve (front ++ template.params))
      = template.slots.map some := by
  have characters : ∀ (cs : List Char) (params : List Value),
      (cs.map Mark.character).map (Mark.resolve params)
        = (cs.map Slot.character).map some := by
    intro cs params
    rw [List.map_map, List.map_map]
    rfl
  induction template generalizing front with
  | nil => rfl
  | cons piece rest ih =>
      cases piece with
      | text s =>
          rw [marks, slots, List.map_append, List.map_append, characters, params_text, ih]
      | fragment s =>
          rw [marks, slots, List.map_append, List.map_append, characters, params_fragment, ih]
      | bound v =>
          have behind := ih (front ++ [v])
          rw [List.length_append, List.append_assoc] at behind
          have here : Mark.resolve (front ++ v :: params rest) (.placeholder (front.length + 1))
              = some (.value v) := by
            simp [Mark.resolve]
          rw [marks, slots, params_bound, List.map_cons, List.map_cons, here]
          exact congrArg (some (Slot.value v) :: ·) behind

section Statements

variable {template : Template} {names : List String} {values : List Value}

/-- A statement is read as the marks of the template it was written from. -/
theorem read_statement (layout : Layout template names values)
    (clean : ∀ s ∈ names, '$' ∉ s.toList) :
    Mark.read template.statement.sql.toList = template.marks 1 := by
  rw [statement, String.toList_ofList]
  exact read_write layout.plain layout.spaced (layout.taken_eq ▸ clean) 1

/-- A statement is read as its text with the values in place. -/
theorem resolve_statement (layout : Layout template names values)
    (clean : ∀ s ∈ names, '$' ∉ s.toList) :
    (Mark.read template.statement.sql.toList).map (Mark.resolve template.statement.params)
      = template.slots.map some := by
  rw [read_statement layout clean]
  exact template.resolve_marks []

end Statements
end Template

end SqlGate
