import Mathlib.Computability.ContextFreeGrammar
import SqlGate.Proofs.Embedded.Words

namespace SqlGate
namespace Embedded

/-!
# The grammar of plain statements

A context-free grammar of the statements that have nothing but plain names where
the statement language allows whole expressions: selections with all their
clauses, insertions of one row, updates and deletions.

The page of a selection is the one place where a clause needs another one: rows
are passed over only behind the greatest number of rows.  So no sentence has more
`OFFSET`s than `LIMIT`s, whatever else it has, and this is kept by every rule.
-/

/-- The phrases that a statement is made of. -/
inductive Phrase where
  | statement
  | columns
  | names
  | joins
  | join
  | joinKind
  | alias
  | wheres
  | groups
  | havings
  | order
  | page
  | chain
  | predicate
  | comparison
  | membership
  | parameters
  | terms
  | direction
  | assignments
deriving DecidableEq, Repr

/-- What phrases are replaced with. -/
abbrev Form := List (Symbol Terminal Phrase)

namespace Phrase

def all : List Phrase :=
  [.statement, .columns, .names, .joins, .join, .joinKind, .alias, .wheres, .groups, .havings,
    .order, .page, .chain, .predicate, .comparison, .membership, .parameters, .terms, .direction,
    .assignments]

theorem mem_all (p : Phrase) : p ∈ all := by
  cases p <;> decide

abbrev symbol (p : Phrase) : Symbol Terminal Phrase := .nonterminal p

abbrev word (w : String) : Symbol Terminal Phrase := .terminal (.keyword w)

abbrev sign (s : String) : Symbol Terminal Phrase := .terminal (.sign s)

abbrev name : Symbol Terminal Phrase := .terminal .name

abbrev number : Symbol Terminal Phrase := .terminal .number

abbrev parameter : Symbol Terminal Phrase := .terminal .parameter

/-- The forms that a phrase may take. -/
def forms : Phrase -> List Form
  | .statement =>
      [[word "SELECT", symbol .columns, word "FROM", name, symbol .joins, symbol .wheres,
          symbol .groups, symbol .havings, symbol .order, symbol .page],
        [word "INSERT", word "INTO", name, sign "(", symbol .names, sign ")", word "VALUES",
          sign "(", symbol .parameters, sign ")"],
        [word "UPDATE", name, word "SET", symbol .assignments, symbol .wheres],
        [word "DELETE", word "FROM", name, symbol .wheres]]
  | .columns => [[sign "*"], [symbol .names]]
  | .names => [[name], [name, sign ",", symbol .names]]
  | .joins => [[], [symbol .join, symbol .joins]]
  | .join => [[symbol .joinKind, word "JOIN", name, symbol .alias, word "ON", name]]
  | .joinKind => [[word "INNER"], [word "LEFT"], [word "RIGHT"], [word "FULL"]]
  | .alias => [[], [word "AS", name]]
  | .wheres => [[], [word "WHERE", symbol .chain]]
  | .groups => [[], [word "GROUP", word "BY", symbol .names]]
  | .havings => [[], [word "HAVING", symbol .chain]]
  | .order => [[], [word "ORDER", word "BY", symbol .terms]]
  | .page => [[], [word "LIMIT", number], [word "LIMIT", number, word "OFFSET", number]]
  | .chain =>
      [[symbol .predicate], [symbol .predicate, word "AND", symbol .chain],
        [symbol .predicate, word "OR", symbol .chain]]
  | .predicate =>
      [[name, symbol .comparison, parameter], [name, word "IS", word "NULL"],
        [name, word "IS", word "NOT", word "NULL"],
        [name, symbol .membership, sign "(", symbol .parameters, sign ")"]]
  | .comparison =>
      [[sign "="], [sign "!="], [sign ">"], [sign ">="], [sign "<"], [sign "<="], [word "LIKE"]]
  | .membership => [[word "IN"], [word "NOT", word "IN"]]
  | .parameters => [[parameter], [parameter, sign ",", symbol .parameters]]
  | .terms => [[name, symbol .direction], [name, symbol .direction, sign ",", symbol .terms]]
  | .direction => [[word "ASC"], [word "DESC"]]
  | .assignments =>
      [[name, sign "=", parameter], [name, sign "=", parameter, sign ",", symbol .assignments]]

end Phrase

open Phrase (word symbol)

/-- Each phrase may be replaced with each of its forms. -/
def rules : List (ContextFreeRule Terminal Phrase) :=
  Phrase.all.flatMap fun p => p.forms.map fun form => ⟨p, form⟩

/-- The grammar of plain statements. -/
def statements : ContextFreeGrammar Terminal where
  NT := Phrase
  initial := .statement
  rules := rules.toFinset

theorem mem_rules_iff {r : ContextFreeRule Terminal Phrase} :
    r ∈ statements.rules ↔ r.output ∈ r.input.forms := by
  obtain ⟨p, form⟩ := r
  change _ ∈ rules.toFinset ↔ _
  simp only [List.mem_toFinset, rules, List.mem_flatMap, List.mem_map, ContextFreeRule.mk.injEq]
  constructor
  · rintro ⟨q, -, other, member, rfl, rfl⟩
    exact member
  · intro member
    exact ⟨p, p.mem_all, form, member, rfl, rfl⟩

/-- A form yields terminals if they are derived from it. -/
def Yields (form : Form) (ts : List Terminal) : Prop :=
  statements.Derives form (ts.map Symbol.terminal)

theorem mem_language_iff {ts : List Terminal} :
    ts ∈ statements.language ↔ Yields [symbol .statement] ts :=
  Iff.rfl

variable {u v form front behind : Form} {ts us : List Terminal}

/-! ## Derivations -/

namespace Yields

/-- Terminals yield themselves. -/
theorem refl (ts : List Terminal) : Yields (ts.map .terminal) ts :=
  ContextFreeGrammar.Derives.refl _

/-- A phrase yields what one of its forms does. -/
theorem phrase {p : Phrase} (member : form ∈ p.forms) (yields : Yields form ts) :
    Yields [symbol p] ts := by
  have step : statements.Produces [symbol p] form :=
    ⟨⟨p, form⟩, mem_rules_iff.mpr member, ContextFreeRule.Rewrites.input_output⟩
  exact step.trans_derives yields

/-- Forms behind one another yield what they yield, behind one another. -/
theorem append (first : Yields front ts) (second : Yields behind us) :
    Yields (front ++ behind) (ts ++ us) := by
  have whole := (first.append_right behind).trans (second.append_left _)
  rwa [← List.map_append] at whole

end Yields

/-- What no replacement of a phrase destroys holds of all that is derived. -/
theorem of_derives (holds : Form -> Prop)
    (kept : ∀ (p : Phrase), ∀ form ∈ p.forms, ∀ front behind : Form,
      holds (front ++ [symbol p] ++ behind) -> holds (front ++ form ++ behind))
    (derives : statements.Derives u v) (first : holds u) : holds v := by
  induction derives with
  | refl => exact first
  | tail _ step ih =>
      obtain ⟨rule, member, rewrites⟩ := step
      obtain ⟨front, behind, rfl, rfl⟩ := rewrites.exists_parts
      exact kept rule.input rule.output (mem_rules_iff.mp member) front behind ih

/-! ## Pages -/

/-- A sentence passes rows over no more often than it limits them. -/
theorem count_offset_le (derives : statements.Derives u v)
    (first : u.count (word "OFFSET") ≤ u.count (word "LIMIT")) :
    v.count (word "OFFSET") ≤ v.count (word "LIMIT") := by
  have each : ∀ (p : Phrase), ∀ form ∈ p.forms,
      form.count (word "OFFSET") ≤ form.count (word "LIMIT") := by
    intro p
    cases p <;> decide
  refine of_derives (fun form => form.count (word "OFFSET") ≤ form.count (word "LIMIT"))
    (fun p form member front behind before => ?_) derives first
  have here := each p form member
  have replaced : ∀ w : String, [symbol p].count (word w) = 0 := fun w => by
    simp
  simp only [List.count_append, replaced] at before ⊢
  omega

/-- A form without a page, as all parts of a statement in front of its page are. -/
def IsPageless (form : Form) : Prop :=
  ∀ s ∈ form, s ≠ word "LIMIT" ∧ s ≠ symbol .page ∧ s ≠ symbol .statement

theorem isPageless_of_derives (derives : statements.Derives u v) (first : IsPageless u) :
    IsPageless v := by
  have each : ∀ (p : Phrase), p ≠ .page -> p ≠ .statement -> ∀ form ∈ p.forms,
      ∀ s ∈ form, s ≠ word "LIMIT" ∧ s ≠ symbol .page ∧ s ≠ symbol .statement := by
    intro p
    cases p <;> decide
  refine of_derives IsPageless (fun p form member front behind before => ?_) derives first
  have here := before (symbol p) (by simp)
  intro s inside
  rcases List.mem_append.mp inside with ahead | after
  · rcases List.mem_append.mp ahead with ahead | within
    · exact before s (by simp [ahead])
    · exact each p (by rintro rfl; exact here.2.1 rfl) (by rintro rfl; exact here.2.2 rfl)
        form member s within
  · exact before s (by simp [after])

/-- What a form without a page yields is no sentence with an `OFFSET` behind it. -/
theorem not_mem_language_of_offset (yields : Yields front ts) (pageless : IsPageless front)
    (noLimit : Terminal.keyword "LIMIT" ∉ us) (offset : Terminal.keyword "OFFSET" ∈ us) :
    ts ++ us ∉ statements.language := by
  intro sentence
  have balanced := count_offset_le sentence (by decide)
  have free : word "LIMIT" ∉ (ts ++ us).map Symbol.terminal := by
    intro inside
    rcases List.mem_append.mp (List.map_append ▸ inside) with ahead | after
    · exact (isPageless_of_derives yields pageless _ ahead).1 rfl
    · exact noLimit ((List.mem_map_of_injective fun _ _ => Symbol.terminal.inj).mp after)
  have passed : 0 < ((ts ++ us).map Symbol.terminal).count (word "OFFSET") :=
    List.count_pos_iff.mpr (List.mem_map_of_mem (List.mem_append_right ts offset))
  exact free (List.count_pos_iff.mp (passed.trans_le balanced))

end Embedded
end SqlGate
