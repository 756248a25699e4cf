import Mathlib.Data.List.Induction
import Mathlib.Data.List.Nodup
import SqlGate.Embedded.Truth
import SqlGate.Proofs.Query.Conditions

namespace SqlGate

/-!
# Chains of conditions without parentheses

A chain of atoms joined by AND and OR can be read in two ways.  A database reads
it by precedence: AND binds tighter than OR, so the chain is a disjunction of
runs, and both connectives group to the left.  A caller who adds one link after
another may have in mind that each link is joined to all that stands before it.

The reading by precedence is a relation between texts and conditions, one rule
for every production of the grammar, so it does not mention how a chain is
written.  A chain whose atoms are known has exactly one such reading.  It has the
value of the reading from left to right, whatever the atoms are worth, if and
only if no AND comes after an OR.  One direction is carried by the state of a
reader that goes through the chain once; the other needs a valuation, which makes
everything before the OR true and everything behind it false.
-/

/-- How a connective joins two truths. -/
def Connective.join : Connective -> Truth -> Truth -> Truth
  | .and => Truth.and
  | .or => Truth.or

theorem Truth.or_true (t : Truth) : Truth.or t (some true) = some true := by
  rcases t with _ | b
  · rfl
  · cases b <;> rfl

theorem Truth.and_false (t : Truth) : Truth.and t (some false) = some false := by
  rcases t with _ | b
  · rfl
  · cases b <;> rfl

/-- A condition made of atoms. -/
inductive Condition (α : Type) where
  | atom (a : α)
  | both (first second : Condition α)
  | either (first second : Condition α)

namespace Condition

variable {α : Type}

def value (truth : α -> Truth) : Condition α -> Truth
  | .atom a => truth a
  | .both first second => Truth.and (first.value truth) (second.value truth)
  | .either first second => Truth.or (first.value truth) (second.value truth)

def atoms : Condition α -> List α
  | .atom a => [a]
  | .both first second => first.atoms ++ second.atoms
  | .either first second => first.atoms ++ second.atoms

/-! ## Reading by precedence -/

/-- A text is read as a run of atoms joined by AND. -/
inductive ReadsRun (word : α -> List Char) : List Char -> Condition α -> Prop where
  | atom (a : α) : ReadsRun word (word a) (.atom a)
  | and {text : List Char} {c : Condition α} (before : ReadsRun word text c) (a : α) :
      ReadsRun word (text ++ " AND ".toList ++ word a) (.both c (.atom a))

/-- A text is read as a disjunction of runs joined by OR. -/
inductive Reads (word : α -> List Char) : List Char -> Condition α -> Prop where
  | run {text : List Char} {c : Condition α} (only : ReadsRun word text c) : Reads word text c
  | or {front behind : List Char} {c d : Condition α} (before : Reads word front c)
      (last : ReadsRun word behind d) :
      Reads word (front ++ " OR ".toList ++ behind) (.either c d)

end Condition

/-! ## Chains -/

/-- An atom behind the connective that joins it to those before it. -/
abbrev ChainLink (α : Type) := Connective × α

namespace ChainLink

variable {α : Type}

def written (word : α -> List Char) (first : α) (links : List (ChainLink α)) : List Char :=
  word first ++ links.flatMap fun link => link.1.joint.toList ++ word link.2

/-- The truth of a chain in which each link is joined to everything before it. -/
def leftToRight (truth : α -> Truth) (first : α) (links : List (ChainLink α)) : Truth :=
  links.foldl (fun before link => link.1.join before (truth link.2)) (truth first)

/-- No AND comes after an OR. -/
def AndsFirst (links : List (ChainLink α)) : Prop :=
  links.Pairwise fun earlier later => ¬(earlier.1 = .or ∧ later.1 = .and)

theorem written_append (word : α -> List Char) (first : α) (links : List (ChainLink α))
    (link : ChainLink α) (others : List (ChainLink α)) :
    written word first (links ++ link :: others)
      = written word first links ++ link.1.joint.toList ++ written word link.2 others := by
  simp [written]

/-- The connectives of a chain are known from its text once its atoms are. -/
theorem eq_of_written {word : α -> List Char} {first : α} {links others : List (ChainLink α)}
    (alike : links.map Prod.snd = others.map Prod.snd)
    (same : written word first links = written word first others) : links = others := by
  replace same := List.append_cancel_left same
  induction links generalizing others with
  | nil => exact (List.map_eq_nil_iff.mp alike.symm).symm
  | cons link rest ih =>
      cases others with
      | nil => cases alike
      | cons other more =>
          obtain ⟨c, a⟩ := link
          obtain ⟨d, b⟩ := other
          simp only [List.map_cons, List.cons.injEq] at alike
          obtain ⟨rfl, alike⟩ := alike
          simp only [List.flatMap_cons] at same
          -- The second character of a connective tells which one it is.
          have joined : c = d := by
            cases c <;> cases d <;> simp [Connective.joint] at same ⊢
          subst joined
          rw [List.append_assoc, List.append_assoc] at same
          rw [ih alike (List.append_cancel_left (List.append_cancel_left same))]

end ChainLink

/-! ## A reader of chains -/

/-- What was read of a chain: the runs that an OR ended, and the run that is still open. -/
structure ChainReader (α : Type) where
  /-- The disjunction of the runs that were ended, if there are any. -/
  ended : Option (Condition α) := none
  /-- The open run. -/
  run : Condition α

namespace ChainReader

variable {α : Type}

/-- All that was read. -/
def condition (r : ChainReader α) : Condition α :=
  match r.ended with
  | none => r.run
  | some before => .either before r.run

/-- Read one link: AND makes the open run longer, OR ends it. -/
def step (r : ChainReader α) : ChainLink α -> ChainReader α
  | (.and, a) => { r with run := .both r.run (.atom a) }
  | (.or, a) => { ended := some r.condition, run := .atom a }

def readAll (first : α) (links : List (ChainLink α)) : ChainReader α :=
  links.foldl step { run := .atom first }

theorem readAll_append (first : α) (links : List (ChainLink α)) (link : ChainLink α) :
    readAll first (links ++ [link]) = (readAll first links).step link := by
  simp [readAll]

theorem condition_step_or (r : ChainReader α) (a : α) :
    (r.step (.or, a)).condition = .either r.condition (.atom a) := rfl

theorem condition_step_and {r : ChainReader α} (single : r.ended = none) (a : α) :
    (r.step (.and, a)).condition = .both r.condition (.atom a) := by
  simp [step, condition, single]

theorem atoms_condition_step (r : ChainReader α) (link : ChainLink α) :
    (r.step link).condition.atoms = r.condition.atoms ++ [link.2] := by
  obtain ⟨c, a⟩ := link
  cases c with
  | or => rfl
  | and => cases ended : r.ended <;> simp [step, condition, ended, Condition.atoms]

theorem atoms_condition_readAll (first : α) (links : List (ChainLink α)) :
    (readAll first links).condition.atoms = first :: links.map Prod.snd := by
  induction links using List.reverseRecOn with
  | nil => rfl
  | append_singleton links link ih => simp [readAll_append, atoms_condition_step, ih]

/-! ### What the reader reads is a reading -/

def HasRead (word : α -> List Char) (text : List Char) (r : ChainReader α) : Prop :=
  match r.ended with
  | none => Condition.ReadsRun word text r.run
  | some before => ∃ front behind, text = front ++ " OR ".toList ++ behind
      ∧ Condition.Reads word front before ∧ Condition.ReadsRun word behind r.run

variable {word : α -> List Char} {text : List Char} {r : ChainReader α}

theorem HasRead.reads (read : r.HasRead word text) : Condition.Reads word text r.condition := by
  unfold HasRead at read
  unfold condition
  cases ended : r.ended with
  | none => rw [ended] at read; exact .run read
  | some before =>
      rw [ended] at read
      obtain ⟨front, behind, rfl, readFront, readBehind⟩ := read
      exact .or readFront readBehind

theorem HasRead.step (read : r.HasRead word text) (link : ChainLink α) :
    (r.step link).HasRead word (text ++ link.1.joint.toList ++ word link.2) := by
  obtain ⟨c, a⟩ := link
  cases c with
  | or => exact ⟨text, word a, rfl, read.reads, .atom a⟩
  | and =>
      unfold HasRead at read
      cases ended : r.ended with
      | none =>
          rw [ended] at read
          simp only [HasRead, ChainReader.step, ended]
          exact .and read a
      | some before =>
          rw [ended] at read
          obtain ⟨front, behind, rfl, readFront, readBehind⟩ := read
          simp only [HasRead, ChainReader.step, ended]
          exact ⟨front, _, by simp [Connective.joint], readFront, .and readBehind a⟩

theorem hasRead_readAll (word : α -> List Char) (first : α) (links : List (ChainLink α)) :
    (readAll first links).HasRead word (ChainLink.written word first links) := by
  induction links using List.reverseRecOn with
  | nil => simpa [readAll, HasRead, ChainLink.written] using .atom first
  | append_singleton links link ih =>
      rw [readAll_append, ChainLink.written_append]
      simpa [ChainLink.written] using ih.step link

/-! ### There is no other reading -/

theorem exists_chain_of_readsRun {c : Condition α} (reads : Condition.ReadsRun word text c) :
    ∃ (first : α) (more : List α),
      text = ChainLink.written word first (more.map (Connective.and, ·))
        ∧ c = more.foldl (fun run a => .both run (.atom a)) (.atom first) := by
  induction reads with
  | atom a => exact ⟨a, [], by simp [ChainLink.written], rfl⟩
  | and before a ih =>
      obtain ⟨first, more, rfl, rfl⟩ := ih
      exact ⟨first, more ++ [a], by simp [ChainLink.written, Connective.joint], by simp⟩

theorem foldl_step_and (r : ChainReader α) (more : List α) :
    (more.map (Connective.and, ·)).foldl step r
      = { r with run := more.foldl (fun run a => .both run (.atom a)) r.run } := by
  induction more generalizing r with
  | nil => rfl
  | cons a rest ih => exact ih _

theorem exists_chain_of_reads {c : Condition α} (reads : Condition.Reads word text c) :
    ∃ (first : α) (links : List (ChainLink α)),
      text = ChainLink.written word first links ∧ c = (readAll first links).condition := by
  induction reads with
  | run only =>
      obtain ⟨first, more, rfl, rfl⟩ := exists_chain_of_readsRun only
      exact ⟨first, more.map (Connective.and, ·), rfl, by rw [readAll, foldl_step_and]; rfl⟩
  | or before last ih =>
      obtain ⟨first, links, rfl, rfl⟩ := ih
      obtain ⟨next, more, rfl, rfl⟩ := exists_chain_of_readsRun last
      refine ⟨first, links ++ (.or, next) :: more.map (Connective.and, ·), ?_, ?_⟩
      · rw [ChainLink.written_append]
        rfl
      · rw [readAll, readAll, List.foldl_append, List.foldl_cons, foldl_step_and]
        rfl

/-- The reading of a chain with the atoms of the chain is the one that the reader finds. -/
theorem reads_written_iff (word : α -> List Char) (first : α) (links : List (ChainLink α))
    (c : Condition α) :
    (Condition.Reads word (ChainLink.written word first links) c
        ∧ c.atoms = first :: links.map Prod.snd) ↔ c = (readAll first links).condition := by
  constructor
  · rintro ⟨reads, atoms⟩
    obtain ⟨start, others, same, rfl⟩ := exists_chain_of_reads reads
    rw [atoms_condition_readAll, List.cons.injEq] at atoms
    obtain ⟨rfl, alike⟩ := atoms
    rw [ChainLink.eq_of_written alike same.symm]
  · rintro rfl
    exact ⟨(hasRead_readAll word first links).reads, atoms_condition_readAll first links⟩

/-! ### The value of the reading -/

/-- Behind an OR there are only ORs, or no OR was read yet: then every link is joined to
everything before it. -/
theorem value_foldl_step (truth : α -> Truth) (links : List (ChainLink α)) (r : ChainReader α)
    (ordered : ChainLink.AndsFirst links)
    (late : r.ended = none ∨ ∀ link ∈ links, link.1 = .or) :
    (links.foldl step r).condition.value truth
      = links.foldl (fun before link => link.1.join before (truth link.2))
          (r.condition.value truth) := by
  induction links generalizing r with
  | nil => rfl
  | cons link rest ih =>
      obtain ⟨c, a⟩ := link
      obtain ⟨later, others⟩ := List.pairwise_cons.mp ordered
      rw [List.foldl_cons, List.foldl_cons]
      cases c with
      | or =>
          have onlyOr : ∀ link ∈ rest, link.1 = .or := by
            intro link member
            have notAnd : link.1 ≠ .and := fun joined => later link member ⟨rfl, joined⟩
            cases joined : link.1 with
            | and => exact absurd joined notAnd
            | or => rfl
          rw [ih (r.step (.or, a)) others (.inr onlyOr), condition_step_or]
          rfl
      | and =>
          have single : r.ended = none :=
            late.resolve_right fun onlyOr => nomatch onlyOr (.and, a) (List.mem_cons_self ..)
          rw [ih (r.step (.and, a)) others (.inl single), condition_step_and single]
          rfl

/-- A reader that has read only true atoms has read something true. -/
theorem value_readAll_of_true {truth : α -> Truth} {first : α} {links : List (ChainLink α)}
    (start : truth first = some true) (hold : ∀ link ∈ links, truth link.2 = some true) :
    (readAll first links).condition.value truth = some true := by
  -- The open run is true after every link, and it is the last part of what was read.
  have open_true : (readAll first links).run.value truth = some true := by
    induction links using List.reverseRecOn with
    | nil => exact start
    | append_singleton links link ih =>
        obtain ⟨c, a⟩ := link
        have here : truth a = some true := hold (c, a) (by simp)
        rw [readAll_append]
        cases c with
        | or => exact here
        | and =>
            have before := ih fun link member => hold link (List.mem_append_left _ member)
            simp [step, Condition.value, before, here, Truth.and]
  unfold condition
  cases (readAll first links).ended with
  | none => exact open_true
  | some before => simp [Condition.value, open_true, Truth.or_true]

/-- Once a run that was ended is true, all is true whatever comes behind. -/
theorem value_of_ended {truth : α -> Truth} {before : Condition α} {r : ChainReader α}
    (ended : r.ended = some before) (holds : before.value truth = some true)
    (links : List (ChainLink α)) :
    (links.foldl step r).condition.value truth = some true := by
  induction links generalizing r before with
  | nil => simp [condition, ended, Condition.value, holds, Truth.or]
  | cons link rest ih =>
      obtain ⟨c, a⟩ := link
      cases c with
      | and => exact ih (r := r.step (.and, a)) ended holds
      | or =>
          have all : r.condition.value truth = some true := by
            simp [condition, ended, Condition.value, holds, Truth.or]
          exact ih (r := r.step (.or, a)) rfl all

end ChainReader

namespace ChainLink

variable {α : Type}

/-- What is false stays false when false atoms are joined to it. -/
theorem foldl_join_of_false {truth : α -> Truth} {links : List (ChainLink α)}
    (fail : ∀ link ∈ links, truth link.2 = some false) :
    links.foldl (fun before link => link.1.join before (truth link.2)) (some false)
      = some false := by
  induction links with
  | nil => rfl
  | cons link rest ih =>
      obtain ⟨c, a⟩ := link
      have here : truth a = some false := fail (c, a) (List.mem_cons_self ..)
      have step : c.join (some false) (truth a) = some false := by
        cases c <;> rw [here] <;> rfl
      rw [List.foldl_cons, step]
      exact ih fun link member => fail link (List.mem_cons_of_mem _ member)

/-- A chain with an AND behind an OR falls into parts at these two links. -/
theorem exists_parts_of_not_andsFirst {links : List (ChainLink α)} (mixed : ¬AndsFirst links) :
    ∃ front a middle b behind,
      links = front ++ (.or, a) :: middle ++ (.and, b) :: behind := by
  induction links with
  | nil => exact absurd List.Pairwise.nil mixed
  | cons link rest ih =>
      by_cases later : AndsFirst rest
      · -- The OR is the first link, since the rest is in order.
        have found : ∃ other ∈ rest, link.1 = .or ∧ other.1 = .and := by
          by_contra none
          push Not at none
          refine mixed (List.pairwise_cons.mpr ⟨fun other member both => ?_, later⟩)
          exact none other member both.1 both.2
        obtain ⟨⟨c, b⟩, member, isOr, isAnd⟩ := found
        obtain ⟨middle, behind, rfl⟩ := List.append_of_mem member
        obtain ⟨d, a⟩ := link
        cases isOr
        cases isAnd
        exact ⟨[], a, middle, b, behind, rfl⟩
      · obtain ⟨front, a, middle, b, behind, rfl⟩ := ih later
        exact ⟨link :: front, a, middle, b, behind, rfl⟩

/-- With an AND behind an OR the two readings differ where all that stands before the OR is
true and nothing else is. -/
theorem exists_valuation_of_not_andsFirst [DecidableEq α] {first : α}
    {links : List (ChainLink α)} (distinct : (first :: links.map Prod.snd).Nodup)
    (mixed : ¬AndsFirst links) :
    ∃ truth : α -> Bool,
      (ChainReader.readAll first links).condition.value (fun a => some (truth a)) = some true
        ∧ leftToRight (fun a => some (truth a)) first links = some false := by
  obtain ⟨front, a, middle, b, behind, rfl⟩ := exists_parts_of_not_andsFirst mixed
  let early : List α := first :: front.map Prod.snd
  let truth : α -> Truth := fun x => some (decide (x ∈ early))
  have late : ∀ x ∈ (((.or, a) :: middle ++ (.and, b) :: behind : List (ChainLink α)).map
      Prod.snd), truth x = some false := by
    intro x member
    have apart : List.Disjoint early
        (((.or, a) :: middle ++ (.and, b) :: behind : List (ChainLink α)).map Prod.snd) :=
      List.disjoint_of_nodup_append (by simpa [early] using distinct)
    have absent : x ∉ early := fun inEarly => apart inEarly member
    simp [truth, absent]
  refine ⟨fun x => decide (x ∈ early), ?_, ?_⟩
  · -- The OR ends a disjunction that is true already.
    have before : (ChainReader.readAll first front).condition.value truth = some true :=
      ChainReader.value_readAll_of_true (by simp [truth, early])
        fun link member => by
          have inEarly : link.2 ∈ early := List.mem_cons_of_mem _ (List.mem_map_of_mem member)
          simp [truth, inEarly]
    have split := ChainReader.value_of_ended
      (r := (ChainReader.readAll first front).step (.or, a)) rfl before
      (middle ++ (.and, b) :: behind)
    simpa [ChainReader.readAll] using split
  · -- The AND joins something false to everything before it.
    have here : truth b = some false := late b (by simp)
    have rest : ∀ link ∈ behind, truth link.2 = some false :=
      fun link member => late link.2
        (List.mem_map_of_mem (List.mem_append_right _ (List.mem_cons_of_mem _ member)))
    simp only [leftToRight, List.foldl_append, List.foldl_cons, Connective.join]
    rw [show some (decide (b ∈ early)) = some false from here, Truth.and_false]
    exact foldl_join_of_false rest

end ChainLink

/-- The reading by precedence is worth as much as the reading from left to right, whatever the
atoms are worth, if and only if no AND comes after an OR. -/
theorem ChainReader.forall_value_eq_iff {α : Type} [DecidableEq α] {first : α}
    {links : List (ChainLink α)} (distinct : (first :: links.map Prod.snd).Nodup) :
    ((∀ truth : α -> Truth, (readAll first links).condition.value truth
          = ChainLink.leftToRight truth first links) ↔ ChainLink.AndsFirst links)
      ∧ ((∀ truth : α -> Bool, (readAll first links).condition.value (fun a => some (truth a))
          = ChainLink.leftToRight (fun a => some (truth a)) first links)
        ↔ ChainLink.AndsFirst links) := by
  have ordered_of_bool : (∀ truth : α -> Bool,
      (readAll first links).condition.value (fun a => some (truth a))
        = ChainLink.leftToRight (fun a => some (truth a)) first links) ->
      ChainLink.AndsFirst links := by
    intro same
    by_contra mixed
    obtain ⟨truth, reads, leftToRight⟩ :=
      ChainLink.exists_valuation_of_not_andsFirst distinct mixed
    rw [same truth, leftToRight] at reads
    cases reads
  have same_of_ordered : ChainLink.AndsFirst links -> ∀ truth : α -> Truth,
      (readAll first links).condition.value truth
        = ChainLink.leftToRight truth first links :=
    fun ordered truth => value_foldl_step truth links { run := .atom first } ordered (.inl rfl)
  exact ⟨⟨fun same => ordered_of_bool fun truth => same _, same_of_ordered⟩,
    ⟨ordered_of_bool, fun ordered truth => same_of_ordered ordered _⟩⟩

end SqlGate
