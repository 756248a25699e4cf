import SqlGate.Proofs.Embedded.Grammar
import SqlGate.Proofs.Query.Layout
import SqlGate.Proofs.Query.Violations

namespace SqlGate

/-!
# Statements and the grammar

Every clause of a statement is written for itself, and here every clause is read
as a phrase of the grammar of plain statements.  A template is read together with
what stands behind it, because a word at its end is only whole in front of a
break.  So each clause is shown to begin with a break, or else with something that
is no blank where the text in front of it ends in one.

A selection has all its clauses in the order of the grammar, and the page is the
only clause whose parts depend on each other: rows may be passed over without a
greatest number of rows being given, and then there is no phrase for it.
-/

open Embedded (Breaks Form IsPageless Parts Phrase Solid Terminal Yields isBlankChar isPlainName
  isSpelled loneSigns statements terminals)
open Embedded.Phrase (sign symbol word)

/-- Text of keywords and signs that a form yields. -/
structure Spells (s : String) (form : Form) : Prop where
  /-- There is nothing else in it. -/
  spelled : isSpelled s.toList = true
  /-- The form yields what the grammar sees of it. -/
  yields : Yields form (terminals s.toList)

namespace Spells

variable {s : String} {form : Form}

/-- The texts that statements are written with, and what the grammar sees of them. -/
def vocabulary : List (String × List Terminal) :=
  [("SELECT ", [.keyword "SELECT"]), ("*", [.sign "*"]), (" FROM ", [.keyword "FROM"]),
    (" INNER JOIN ", [.keyword "INNER", .keyword "JOIN"]),
    (" LEFT JOIN ", [.keyword "LEFT", .keyword "JOIN"]),
    (" RIGHT JOIN ", [.keyword "RIGHT", .keyword "JOIN"]),
    (" FULL JOIN ", [.keyword "FULL", .keyword "JOIN"]), (" AS ", [.keyword "AS"]),
    (" ON ", [.keyword "ON"]), (" WHERE ", [.keyword "WHERE"]),
    (" GROUP BY ", [.keyword "GROUP", .keyword "BY"]), (" HAVING ", [.keyword "HAVING"]),
    (" ORDER BY ", [.keyword "ORDER", .keyword "BY"]), (" ASC", [.keyword "ASC"]),
    (" DESC", [.keyword "DESC"]), (" LIMIT ", [.keyword "LIMIT"]),
    (" OFFSET ", [.keyword "OFFSET"]),
    ("INSERT INTO ", [.keyword "INSERT", .keyword "INTO"]), (" (", [.sign "("]),
    (") VALUES (", [.sign ")", .keyword "VALUES", .sign "("]), (")", [.sign ")"]),
    ("(", [.sign "("]), (", ", [.sign ","]), ("UPDATE ", [.keyword "UPDATE"]),
    (" SET ", [.keyword "SET"]), ("DELETE FROM ", [.keyword "DELETE", .keyword "FROM"]),
    (" AND ", [.keyword "AND"]), (" OR ", [.keyword "OR"]), (" = ", [.sign "="]),
    (" != ", [.sign "!="]), (" > ", [.sign ">"]), (" >= ", [.sign ">="]), (" < ", [.sign "<"]),
    (" <= ", [.sign "<="]), (" LIKE ", [.keyword "LIKE"]), (" IN ", [.keyword "IN"]),
    (" NOT IN ", [.keyword "NOT", .keyword "IN"]), (" IS NULL", [.keyword "IS", .keyword "NULL"]),
    (" IS NOT NULL", [.keyword "IS", .keyword "NOT", .keyword "NULL"])]

theorem seen_of_mem {ts : List Terminal} (member : (s, ts) ∈ vocabulary) :
    isSpelled s.toList = true ∧ terminals s.toList = ts := by
  -- One evaluation for all texts: what follows only looks them up.
  have each : vocabulary.all (fun entry =>
      isSpelled entry.1.toList && decide (terminals entry.1.toList = entry.2)) = true := by
    decide +kernel
  simpa using List.all_eq_true.mp each _ member

theorem of_mem (ts : List Terminal) (member : (s, ts) ∈ vocabulary) :
    Spells s (ts.map .terminal) := by
  obtain ⟨spelled, seen⟩ := seen_of_mem member
  exact ⟨spelled, seen ▸ Yields.refl ts⟩

/-- A phrase for the form. -/
theorem phrase {p : Phrase} (spells : Spells s form) (member : form ∈ p.forms) :
    Spells s [symbol p] :=
  ⟨spells.spelled, spells.yields.phrase member⟩

end Spells

namespace Template

/-! ## How templates begin -/

/-- Whether a word is whole in front of a template. -/
def isBroken : Template -> Bool
  | [] => true
  | .text s :: _ => s.toList.head?.any [' ', ',', '(', ')'].contains
  | _ => false

/-- Whether a template begins, and with no blank. -/
def isSolid : Template -> Bool
  | [] => false
  | .text s :: _ => s.toList.head?.any fun c => !isBlankChar c
  | .fragment s :: _ => isPlainName s
  | .bound _ :: _ => true

variable {t front behind : Template} {rest : List Char}

theorem isBroken_append (first : front.isBroken = true) (second : behind.isBroken = true) :
    isBroken (front ++ behind) = true := by
  cases front with
  | nil => exact second
  | cons piece pieces => cases piece <;> exact first

theorem isSolid_append (first : front.isSolid = true) (behind : Template) :
    isSolid (front ++ behind) = true := by
  cases front with
  | nil => cases first
  | cons piece pieces => cases piece <;> exact first

theorem breaks_write (broken : t.isBroken = true) (breaks : Breaks rest) (next : Nat) :
    Breaks (write next t ++ rest) := by
  cases t with
  | nil => exact breaks
  | cons piece pieces =>
      cases piece with
      | fragment s => cases broken
      | bound v => cases broken
      | text s =>
          rw [isBroken] at broken
          rw [write]
          cases letters : s.toList with
          | nil => rw [letters] at broken; cases broken
          | cons c cs =>
              rw [letters] at broken
              rintro d ⟨⟩
              exact broken

theorem solid_write (solid : t.isSolid = true) (next : Nat) (rest : List Char) :
    Solid (write next t ++ rest) := by
  cases t with
  | nil => cases solid
  | cons piece pieces =>
      cases piece with
      | text s =>
          rw [isSolid] at solid
          rw [write]
          cases letters : s.toList with
          | nil => rw [letters] at solid; cases solid
          | cons c cs =>
              rw [letters] at solid
              rintro d ⟨⟩
              exact Bool.not_eq_true' _ ▸ solid
      | fragment s =>
          obtain ⟨c, cs, letters, start, -⟩ := Embedded.exists_of_isPlainName solid
          rw [write, letters]
          rintro d ⟨⟩
          exact Embedded.isBlankChar_of_isWordChar (Embedded.isWordChar_of_isWordStart start)
      | bound v =>
          rintro d ⟨⟩
          rfl

/-! ## Templates as phrases -/

/-- In front of a break, a template is read as terminals that a form yields. -/
def Reads (t : Template) (form : Form) : Prop :=
  ∀ (next : Nat) (rest : List Char), Breaks rest ->
    ∃ ts, terminals (write next t ++ rest) = ts ++ terminals rest ∧ Yields form ts

namespace Reads

variable {form other : Form} {s : String}

theorem nil : Reads [] [] :=
  fun _ _ _ => ⟨[], rfl, Yields.refl []⟩

/-- A phrase for a form. -/
theorem phrase {p : Phrase} (reads : Reads t form) (member : form ∈ p.forms) :
    Reads t [symbol p] := by
  intro next rest breaks
  obtain ⟨ts, read, yields⟩ := reads next rest breaks
  exact ⟨ts, read, yields.phrase member⟩

/-- Templates behind one another, of which the second one begins with a break. -/
theorem append (first : Reads front form) (second : Reads behind other)
    (broken : behind.isBroken = true) : Reads (front ++ behind) (form ++ other) := by
  intro next rest breaks
  obtain ⟨us, readBehind, yieldsBehind⟩ := second (next + front.params.length) rest breaks
  obtain ⟨ts, read, yields⟩ := first next _ (breaks_write broken breaks _)
  refine ⟨ts ++ us, ?_, yields.append yieldsBehind⟩
  rw [write_append, List.append_assoc, read, readBehind, List.append_assoc]

/-- A plain name in front of a break. -/
theorem fragment (plain : isPlainName s = true) (reads : Reads t form)
    (broken : t.isBroken = true) : Reads (.fragment s :: t) (Phrase.name :: form) := by
  intro next rest breaks
  obtain ⟨ts, read, yields⟩ := reads next rest breaks
  refine ⟨.name :: ts, ?_, (Yields.refl [.name]).append yields⟩
  rw [write, List.append_assoc, Embedded.terminals_name plain (breaks_write broken breaks next),
    read]
  rfl

/-- A value in front of a break. -/
theorem bound (v : Value) (reads : Reads t form) (broken : t.isBroken = true) :
    Reads (.bound v :: t) (Phrase.parameter :: form) := by
  intro next rest breaks
  obtain ⟨ts, read, yields⟩ := reads (next + 1) rest breaks
  refine ⟨.parameter :: ts, ?_, (Yields.refl [.parameter]).append yields⟩
  rw [write, List.append_assoc,
    Embedded.terminals_placeholder next (breaks_write broken breaks (next + 1)), read]
  rfl

/-- Text that parts from what stands behind it. -/
theorem text (spells : Spells s other) (reads : Reads t form)
    (parts : ∀ (next : Nat) (rest : List Char), Breaks rest ->
      Parts s.toList (write next t ++ rest)) :
    Reads (.text s :: t) (other ++ form) := by
  intro next rest breaks
  obtain ⟨ts, read, yields⟩ := reads next rest breaks
  refine ⟨terminals s.toList ++ ts, ?_, spells.yields.append yields⟩
  rw [write, List.append_assoc,
    Embedded.terminals_append spells.spelled (parts next rest breaks), read, List.append_assoc]

/-- Text that ends in a blank. -/
theorem blank (spells : Spells s other) (last : s.toList.getLast? = some ' ')
    (reads : Reads t form) (solid : t.isSolid = true) : Reads (.text s :: t) (other ++ form) := by
  refine reads.text spells fun next rest _ c found => .inl ⟨?_, solid_write solid next rest⟩
  exact Option.some.inj (found.symm.trans last)

/-- Text that ends in a keyword. -/
theorem capital (spells : Spells s other) (last : s.toList.getLast?.any Char.isUpper = true)
    (reads : Reads t form) (broken : t.isBroken = true) :
    Reads (.text s :: t) (other ++ form) := by
  refine reads.text spells fun next rest breaks c found => .inr (.inl ⟨?_, ?_⟩)
  · rw [Option.mem_def.mp found] at last
    exact last
  · exact breaks_write broken breaks next

/-- Text that ends in a sign that is whole in front of anything. -/
theorem lone (spells : Spells s other) (last : s.toList.getLast?.any loneSigns.contains = true)
    (reads : Reads t form) : Reads (.text s :: t) (other ++ form) := by
  refine reads.text spells fun _ _ _ c found => .inr (.inr ?_)
  rw [Option.mem_def.mp found] at last
  exact List.contains_iff_mem.mp last

/-- A list with commas is what its items are, behind one another. -/
theorem commas {ι : Type} {item : ι -> Template} {p : Phrase} (alone : form ∈ p.forms)
    (followed : form ++ [sign ",", symbol p] ∈ p.forms) {items : List ι} (given : items ≠ [])
    (each : ∀ i ∈ items, Reads (item i) form ∧ (item i).isSolid = true) :
    Reads (commas (items.map item)) [symbol p] ∧ isSolid (commas (items.map item)) = true := by
  have comma : Spells ", " [sign ","] := .of_mem [.sign ","] (by decide)
  induction items with
  | nil => exact absurd rfl given
  | cons first others ih =>
      obtain ⟨here, solid⟩ := each first List.mem_cons_self
      cases others with
      | nil => exact ⟨here.phrase alone, solid⟩
      | cons second more =>
          obtain ⟨behind, solidBehind⟩ :=
            ih (List.cons_ne_nil _ _) fun i member => each i (List.mem_cons_of_mem _ member)
          have whole := here.append (behind.blank comma (by decide) solidBehind) rfl
          refine ⟨?_, isSolid_append (isSolid_append solid _) _⟩
          simpa [Template.commas, separated] using whole.phrase followed

theorem values {vs : List Value} (given : vs ≠ []) :
    Reads (Template.values vs) [symbol .parameters] ∧ isSolid (Template.values vs) = true :=
  commas (by decide) (by decide) given fun v _ => ⟨nil.bound v rfl, rfl⟩

theorem fragments {names : List String} (given : names ≠ [])
    (plain : ∀ s ∈ names, isPlainName s = true) :
    Reads (Draft.fragments names) [symbol .names] ∧ isSolid (Draft.fragments names) = true :=
  commas (by decide) (by decide) given fun s member =>
    ⟨nil.fragment (plain s member) rfl, plain s member⟩

end Reads
end Template

open Template (Reads isBroken isSolid isBroken_append isSolid_append)

/-! ## Chains of predicates -/

namespace Predicate

/-- The phrase of an operator that has a right side. -/
def operatorPhrase (op : Operator) : Phrase :=
  if op.isMembership then .membership else .comparison

theorem spells_operator {op : Operator} (ordinary : op ≠ .ilike) (binary : op.isUnary = false) :
    Spells (" " ++ op.sql ++ " ") [symbol (operatorPhrase op)]
      ∧ (" " ++ op.sql ++ " ").toList.getLast? = some ' ' := by
  have spells : ∀ {s : String} (p : Phrase) (ts : List Terminal),
      (s, ts) ∈ Spells.vocabulary -> ts.map .terminal ∈ p.forms -> Spells s [symbol p] :=
    fun p ts seen member => (Spells.of_mem ts seen).phrase member
  cases op with
  | isNull | isNotNull => cases binary
  | ilike => exact absurd rfl ordinary
  | eq => exact ⟨spells _ [.sign "="] (by decide) (by decide), by decide⟩
  | notEq => exact ⟨spells _ [.sign "!="] (by decide) (by decide), by decide⟩
  | gt => exact ⟨spells _ [.sign ">"] (by decide) (by decide), by decide⟩
  | gte => exact ⟨spells _ [.sign ">="] (by decide) (by decide), by decide⟩
  | lt => exact ⟨spells _ [.sign "<"] (by decide) (by decide), by decide⟩
  | lte => exact ⟨spells _ [.sign "<="] (by decide) (by decide), by decide⟩
  | like => exact ⟨spells _ [.keyword "LIKE"] (by decide) (by decide), by decide⟩
  | isIn => exact ⟨spells _ [.keyword "IN"] (by decide) (by decide), by decide⟩
  | notIn =>
      exact ⟨spells _ [.keyword "NOT", .keyword "IN"] (by decide) (by decide), by decide⟩

/-- The form of the right side of an operator. -/
def rightForm (op : Operator) : Form :=
  if op.isMembership then [sign "(", symbol .parameters, sign ")"] else [Phrase.parameter]

theorem reads_list {vs : List Value} (given : vs ≠ []) :
    Reads ([.text "("] ++ Template.values vs ++ [.text ")"])
      [sign "(", symbol .parameters, sign ")"] := by
  have opening : Spells "(" [sign "("] := .of_mem [.sign "("] (by decide)
  have closing : Spells ")" [sign ")"] := .of_mem [.sign ")"] (by decide)
  have behind := (Reads.values given).1.append (Reads.nil.lone closing (by decide)) rfl
  exact behind.lone opening (by decide)

theorem reads_rightSide {p : Predicate} {right : Template} (succeeds : p.rightSide = .ok right) :
    Reads right (rightForm p.operator) ∧ right.isSolid = true := by
  unfold rightSide at succeeds
  split at succeeds <;> cases succeeds
  case h_2 vs given _ member =>
    rw [rightForm, if_pos member]
    exact ⟨reads_list given, rfl⟩
  case h_3 v _ member =>
    rw [rightForm, if_pos member]
    exact ⟨reads_list (List.cons_ne_nil v []), rfl⟩
  case h_4 v _ other =>
    rw [rightForm, other]
    exact ⟨Reads.nil.bound v rfl, rfl⟩

/-- A predicate about a plain name is a predicate of the grammar. -/
theorem reads_template {p : Predicate} {here : Template} (succeeds : p.template = .ok here)
    (plain : isPlainName p.field = true) (ordinary : p.operator ≠ .ilike) :
    Reads here [symbol .predicate] ∧ here.isSolid = true := by
  unfold template at succeeds
  split at succeeds
  · rename_i unary
    cases succeeds
    refine ⟨?_, plain⟩
    cases chosen : p.operator with
    | isNull =>
        have spells : Spells " IS NULL" [word "IS", word "NULL"] :=
          .of_mem [.keyword "IS", .keyword "NULL"] (by decide)
        have behind := Reads.nil.capital spells (by decide) rfl
        exact (behind.fragment plain rfl).phrase (by decide)
    | isNotNull =>
        have spells : Spells " IS NOT NULL" [word "IS", word "NOT", word "NULL"] :=
          .of_mem [.keyword "IS", .keyword "NOT", .keyword "NULL"] (by decide)
        have behind := Reads.nil.capital spells (by decide) rfl
        exact (behind.fragment plain rfl).phrase (by decide)
    | _ => rw [chosen] at unary; cases unary
  · rename_i binary
    obtain ⟨right, written, rfl⟩ := exists_ok_of_map succeeds
    obtain ⟨reads, solid⟩ := reads_rightSide written
    obtain ⟨spells, last⟩ := spells_operator ordinary (Bool.not_eq_true _ ▸ binary)
    have opens : isBroken (.text (" " ++ p.operator.sql ++ " ") :: right) = true := by
      cases p.operator <;> rfl
    have behind := (reads.blank spells last solid).fragment plain opens
    refine ⟨behind.phrase ?_, plain⟩
    rw [rightForm, operatorPhrase]
    split <;> decide

/-- What may stand between two predicates of the grammar. -/
def IsConnective (joiner : Predicate -> Template) : Prop :=
  ∀ p, joiner p = [.text " AND "] ∨ joiner p = [.text " OR "]

theorem isConnective_joiner : IsConnective joiner := by
  intro p
  unfold joiner
  cases p.connective
  · exact .inl rfl
  · exact .inr rfl

variable {joiner : Predicate -> Template}

/-- A predicate with those behind it is a chain, whatever joins them. -/
theorem reads_followers (joins : IsConnective joiner) {ps : List Predicate}
    {here found : Template} (first : Reads here [symbol .predicate]) (solid : here.isSolid = true)
    (succeeds : followers joiner ps = .ok found) (plain : ∀ p ∈ ps, isPlainName p.field = true)
    (ordinary : ∀ p ∈ ps, p.operator ≠ .ilike) :
    Reads (here ++ found) [symbol .chain] := by
  have conjunction : Spells " AND " [word "AND"] :=
    .of_mem [.keyword "AND"] (by decide)
  have disjunction : Spells " OR " [word "OR"] :=
    .of_mem [.keyword "OR"] (by decide)
  induction ps generalizing here found with
  | nil =>
      cases succeeds
      rw [List.append_nil]
      exact first.phrase (by decide)
  -- The grammar's chain goes on behind its first predicate, so the induction is on what follows
  -- and holds for any predicate in front of it.
  | cons p rest ih =>
      obtain ⟨next, written, succeeds⟩ := exists_ok_of_bind succeeds
      obtain ⟨others, followed, succeeds⟩ := exists_ok_of_bind succeeds
      cases succeeds
      obtain ⟨plainHere, plain⟩ := List.forall_mem_cons.mp plain
      obtain ⟨ordinaryHere, ordinary⟩ := List.forall_mem_cons.mp ordinary
      obtain ⟨reads, solidNext⟩ := reads_template written plainHere ordinaryHere
      have chain := ih reads solidNext followed plain ordinary
      have begins := isSolid_append solidNext others
      rcases joins p with joined | joined
      · rw [joined, List.append_assoc]
        have behind := chain.blank conjunction (by decide) begins
        exact (first.append behind rfl).phrase (by decide)
      · rw [joined, List.append_assoc]
        have behind := chain.blank disjunction (by decide) begins
        exact (first.append behind rfl).phrase (by decide)

/-- A chain behind its keyword, or nothing. -/
theorem reads_chain {keyword : String} {w : String} {q : Phrase} (spells : Spells keyword [word w])
    (last : keyword.toList.getLast? = some ' ') (opens : Template.isBroken [.text keyword] = true)
    (missing : [] ∈ q.forms) (given : [word w, symbol .chain] ∈ q.forms)
    (joins : IsConnective joiner) {ps : List Predicate} {found : Template}
    (succeeds : chain keyword joiner ps = .ok found) (plain : ∀ p ∈ ps, isPlainName p.field = true)
    (ordinary : ∀ p ∈ ps, p.operator ≠ .ilike) :
    Reads found [symbol q] ∧ found.isBroken = true := by
  cases ps with
  | nil =>
      cases succeeds
      exact ⟨Reads.nil.phrase missing, rfl⟩
  | cons p rest =>
      obtain ⟨here, written, succeeds⟩ := exists_ok_of_bind succeeds
      obtain ⟨others, followed, succeeds⟩ := exists_ok_of_bind succeeds
      cases succeeds
      obtain ⟨plainHere, plain⟩ := List.forall_mem_cons.mp plain
      obtain ⟨ordinaryHere, ordinary⟩ := List.forall_mem_cons.mp ordinary
      obtain ⟨reads, solid⟩ := reads_template written plainHere ordinaryHere
      have chain := reads_followers joins reads solid followed plain ordinary
      have whole := chain.blank spells last (isSolid_append solid others)
      exact ⟨whole.phrase given, opens⟩

theorem reads_whereClause {ps : List Predicate} {found : Template}
    (succeeds : whereClause ps = .ok found) (plain : ∀ p ∈ ps, isPlainName p.field = true)
    (ordinary : ∀ p ∈ ps, p.operator ≠ .ilike) :
    Reads found [symbol .wheres] ∧ found.isBroken = true :=
  reads_chain (.of_mem [.keyword "WHERE"] (by decide)) (by decide) (by decide)
    (by decide) (by decide) isConnective_joiner succeeds plain ordinary

theorem reads_havingClause {ps : List Predicate} {found : Template}
    (succeeds : havingClause ps = .ok found) (plain : ∀ p ∈ ps, isPlainName p.field = true)
    (ordinary : ∀ p ∈ ps, p.operator ≠ .ilike) :
    Reads found [symbol .havings] ∧ found.isBroken = true :=
  reads_chain (.of_mem [.keyword "HAVING"] (by decide)) (by decide) (by decide)
    (by decide) (by decide) (fun _ => .inl rfl) succeeds plain ordinary

end Predicate

/-! ## Clauses -/

namespace Draft

theorem reads_columnList (draft : Draft) (plain : ∀ s ∈ draft.columns, isPlainName s = true) :
    Reads draft.columnList [symbol .columns] ∧ draft.columnList.isSolid = true := by
  unfold columnList
  cases columns : draft.columns with
  | nil =>
      have star : Spells "*" [sign "*"] := .of_mem [.sign "*"] (by decide)
      exact ⟨(Reads.nil.lone star (by decide)).phrase (by decide), rfl⟩
  | cons name names =>
      rw [columns] at plain
      obtain ⟨reads, solid⟩ := Reads.fragments (List.cons_ne_nil name names) plain
      exact ⟨reads.phrase (by decide), solid⟩

theorem spells_joinKind (kind : JoinKind) :
    Spells (" " ++ kind.sql ++ " ") [symbol .joinKind, word "JOIN"] := by
  have spells : ∀ {s : String} (w : String), [word w] ∈ Phrase.joinKind.forms ->
      (s, [.keyword w, .keyword "JOIN"]) ∈ Spells.vocabulary ->
      Spells s [symbol .joinKind, word "JOIN"] := by
    intro s w member seen
    obtain ⟨spelled, seen⟩ := Spells.seen_of_mem seen
    have yields := ((Yields.refl [.keyword w]).phrase member).append (Yields.refl [.keyword "JOIN"])
    exact ⟨spelled, seen ▸ yields⟩
  cases kind with
  | inner => exact spells "INNER" (by decide) (by decide)
  | left => exact spells "LEFT" (by decide) (by decide)
  | right => exact spells "RIGHT" (by decide) (by decide)
  | full => exact spells "FULL" (by decide) (by decide)

theorem reads_joinClause (join : Join) (plain : ∀ s ∈ join.taken, isPlainName s = true) :
    Reads (joinClause join) [symbol .join] ∧ (joinClause join).isBroken = true := by
  have last : (" " ++ join.kind.sql ++ " ").toList.getLast? = some ' ' := by
    cases join.kind <;> decide
  have opens : isBroken (joinClause join) = true := by
    unfold joinClause
    cases join.kind <;> rfl
  refine ⟨?_, opens⟩
  simp only [Join.taken, List.forall_mem_append, List.forall_mem_cons] at plain
  obtain ⟨⟨plainTable, plainAlias⟩, plainOn, -⟩ := plain
  have on : Spells " ON " [word "ON"] := .of_mem [.keyword "ON"] (by decide)
  have as : Spells " AS " [word "AS"] := .of_mem [.keyword "AS"] (by decide)
  have condition := (Reads.nil.fragment plainOn rfl).blank on (by decide) plainOn
  have whole : ∀ {other : Template}, Reads other [symbol .alias] -> other.isBroken = true ->
      Reads ([.text (" " ++ join.kind.sql ++ " "), .fragment join.table] ++ other
        ++ [.text " ON ", .fragment join.on]) [symbol .join] := by
    intro other reads broken
    have table := (reads.append condition rfl).fragment plainTable (isBroken_append broken rfl)
    exact (table.blank (spells_joinKind join.kind) last plainTable).phrase (by decide)
  unfold joinClause
  cases renamed : join.alias? with
  | none => exact whole (Reads.nil.phrase (by decide)) rfl
  | some a =>
      rw [renamed] at plainAlias
      have plainName := plainAlias a List.mem_cons_self
      have other := (Reads.nil.fragment plainName rfl).blank as (by decide) plainName
      exact whole (other.phrase (by decide)) rfl

theorem reads_joins {joins : List Join}
    (plain : ∀ s ∈ joins.flatMap Join.taken, isPlainName s = true) :
    Reads (joins.flatMap joinClause) [symbol .joins]
      ∧ isBroken (joins.flatMap joinClause) = true := by
  induction joins with
  | nil => exact ⟨Reads.nil.phrase (by decide), rfl⟩
  | cons join others ih =>
      rw [List.flatMap_cons] at plain ⊢
      obtain ⟨plainHere, plain⟩ := List.forall_mem_append.mp plain
      obtain ⟨reads, broken⟩ := reads_joinClause join plainHere
      obtain ⟨behind, brokenBehind⟩ := ih plain
      exact ⟨(reads.append behind brokenBehind).phrase (by decide),
        isBroken_append broken brokenBehind⟩

theorem reads_groupClause (draft : Draft) (plain : ∀ s ∈ draft.groupBy, isPlainName s = true) :
    Reads draft.groupClause [symbol .groups] ∧ draft.groupClause.isBroken = true := by
  unfold groupClause
  cases groups : draft.groupBy with
  | nil => exact ⟨Reads.nil.phrase (by decide), rfl⟩
  | cons name names =>
      rw [groups] at plain
      have keyword : Spells " GROUP BY " [word "GROUP", word "BY"] :=
        .of_mem [.keyword "GROUP", .keyword "BY"] (by decide)
      obtain ⟨reads, solid⟩ := Reads.fragments (List.cons_ne_nil name names) plain
      exact ⟨(reads.blank keyword (by decide) solid).phrase (by decide), rfl⟩

theorem spells_direction (way : Direction) :
    Spells (" " ++ way.sql) [symbol .direction]
      ∧ (" " ++ way.sql).toList.getLast?.any Char.isUpper = true := by
  cases way with
  | asc =>
      have spells : Spells (" " ++ Direction.asc.sql) [word "ASC"] :=
        .of_mem [.keyword "ASC"] (by decide)
      exact ⟨spells.phrase (by decide), by decide⟩
  | desc =>
      have spells : Spells (" " ++ Direction.desc.sql) [word "DESC"] :=
        .of_mem [.keyword "DESC"] (by decide)
      exact ⟨spells.phrase (by decide), by decide⟩

theorem reads_orderClause (draft : Draft)
    (plain : ∀ o ∈ draft.orderBy, isPlainName o.field = true) :
    Reads draft.orderClause [symbol .order] ∧ draft.orderClause.isBroken = true := by
  have each : ∀ o ∈ draft.orderBy,
      Reads [.fragment o.field, .text (" " ++ o.direction.sql)] [Phrase.name, symbol .direction]
        ∧ isSolid [.fragment o.field, .text (" " ++ o.direction.sql)] = true := by
    intro o member
    obtain ⟨spells, last⟩ := spells_direction o.direction
    have opens : isBroken [.text (" " ++ o.direction.sql)] = true := by
      cases o.direction <;> rfl
    exact ⟨(Reads.nil.capital spells last rfl).fragment (plain o member) opens, plain o member⟩
  unfold orderClause
  split
  · exact ⟨Reads.nil.phrase (by decide), rfl⟩
  · rename_i given
    have keyword : Spells " ORDER BY " [word "ORDER", word "BY"] :=
      .of_mem [.keyword "ORDER", .keyword "BY"] (by decide)
    have given : draft.orderBy ≠ [] := fun empty => given (by rw [empty]; rfl)
    obtain ⟨reads, solid⟩ := Reads.commas (p := .terms) (by decide) (by decide) given each
    exact ⟨(reads.blank keyword (by decide) solid).phrase (by decide), rfl⟩

/-- A number behind its keyword, which ends in a blank. -/
theorem terminals_count {keyword : String} (spelled : isSpelled keyword.toList = true)
    (last : keyword.toList.getLast? = some ' ') (n next : Nat) {rest : List Char}
    (breaks : Breaks rest) :
    terminals (Template.write next (countClause keyword (some n)) ++ rest)
      = terminals keyword.toList ++ .number :: terminals rest := by
  have parts : Parts keyword.toList (Text.ofNat n ++ rest) := fun c found =>
    .inl ⟨Option.some.inj (found.symm.trans last), Embedded.solid_ofNat n rest⟩
  rw [countClause, Template.write, Template.write, List.append_nil, String.toList_append,
    String.toList_ofList, List.append_assoc, Embedded.terminals_append spelled parts,
    Embedded.terminals_number n breaks]

theorem reads_count {keyword w : String} (spells : Spells keyword [word w])
    (last : keyword.toList.getLast? = some ' ') (n : Nat) :
    Reads (countClause keyword (some n)) [word w, Phrase.number] := by
  intro next rest breaks
  have number : Yields [Phrase.number] [.number] := Yields.refl [.number]
  refine ⟨terminals keyword.toList ++ [.number], ?_, spells.yields.append number⟩
  rw [terminals_count spells.spelled last n next breaks, List.append_assoc]
  rfl

theorem isBroken_countClause (keyword : String) (opens : isBroken [.text keyword] = true)
    (count : Option Nat) : isBroken (countClause keyword count) = true := by
  cases count with
  | none => rfl
  | some n =>
      rw [isBroken] at opens
      rw [countClause, isBroken, String.toList_append]
      cases letters : keyword.toList with
      | nil => rw [letters] at opens; cases opens
      | cons c cs => rw [letters] at opens; exact opens

theorem isBroken_pageClause (draft : Draft) : isBroken draft.pageClause = true :=
  isBroken_append (isBroken_countClause _ rfl draft.limit)
    (isBroken_countClause _ rfl draft.offset)

theorem reads_limit (n : Nat) :
    Reads (countClause " LIMIT " (some n)) [word "LIMIT", Phrase.number] :=
  reads_count (.of_mem [.keyword "LIMIT"] (by decide)) (by decide) n

theorem reads_offset (n : Nat) :
    Reads (countClause " OFFSET " (some n)) [word "OFFSET", Phrase.number] :=
  reads_count (.of_mem [.keyword "OFFSET"] (by decide)) (by decide) n

/-- A page is one of the grammar if it does not pass over rows without limiting them. -/
theorem reads_pageClause {draft : Draft} (limited : draft.limit = none -> draft.offset = none) :
    Reads draft.pageClause [symbol .page] := by
  unfold pageClause
  cases limit : draft.limit with
  | none =>
      rw [limited limit]
      exact Reads.nil.phrase (by decide)
  | some n =>
      cases draft.offset with
      | none =>
          have alone : Reads (countClause " LIMIT " (some n)) [symbol .page] :=
            (reads_limit n).phrase (by decide)
          exact alone
      | some m =>
          have broken := isBroken_countClause " OFFSET " rfl (some m)
          exact ((reads_limit n).append (reads_offset m) broken).phrase (by decide)

/-! ## Statements -/

/-- A selection up to its page. -/
def unpagedForm : Form :=
  [word "SELECT", symbol .columns, word "FROM", Phrase.name, symbol .joins, symbol .wheres,
    symbol .groups, symbol .havings, symbol .order]

/-- The names and operators of a selection are of the grammar, and so is all in front of its
page. -/
theorem reads_unpaged {draft : Draft} {body : Template} (succeeds : draft.selectBody = .ok body)
    (plain : ∀ s ∈ draft.columns ++ draft.table :: draft.joins.flatMap Join.taken
        ++ draft.wheres.map Predicate.field ++ draft.groupBy
        ++ draft.having.map Predicate.field ++ draft.orderBy.map OrderBy.field,
      isPlainName s = true)
    (ordinary : ∀ p ∈ draft.wheres ++ draft.having, p.operator ≠ .ilike) :
    Reads ([.text "SELECT "] ++ draft.columnList ++ body ++ draft.orderClause) unpagedForm := by
  simp only [List.forall_mem_append, List.forall_mem_cons, List.forall_mem_map] at plain ordinary
  obtain ⟨⟨⟨⟨⟨plainColumns, plainTable, plainJoins⟩, plainWheres⟩, plainGroups⟩, plainHaving⟩,
    plainOrder⟩ := plain
  obtain ⟨ordinaryWheres, ordinaryHaving⟩ := ordinary
  obtain ⟨wheres, whereWritten, succeeds⟩ := exists_ok_of_bind succeeds
  obtain ⟨having, havingWritten, succeeds⟩ := exists_ok_of_bind succeeds
  cases succeeds
  have rows := Predicate.reads_whereClause whereWritten plainWheres ordinaryWheres
  have groups := Predicate.reads_havingClause havingWritten plainHaving ordinaryHaving
  have grouped := draft.reads_groupClause plainGroups
  have joins := reads_joins plainJoins
  have columns := draft.reads_columnList plainColumns
  have order := draft.reads_orderClause plainOrder
  have source : Spells " FROM " [word "FROM"] := .of_mem [.keyword "FROM"] (by decide)
  have selects : Spells "SELECT " [word "SELECT"] :=
    .of_mem [.keyword "SELECT"] (by decide)
  have table : Reads [.text " FROM ", .fragment draft.table] [word "FROM", Phrase.name] :=
    (Reads.nil.fragment plainTable rfl).blank source (by decide) plainTable
  have body := (((table.append joins.1 joins.2).append rows.1 rows.2).append grouped.1
    grouped.2).append groups.1 groups.2
  have front := columns.1.blank selects (by decide) columns.2
  exact (front.append body rfl).append order.1 order.2

theorem reads_insertTemplate {draft : Draft} {found : Template}
    (succeeds : draft.insertTemplate = .ok found)
    (plain : ∀ s ∈ draft.table :: draft.insertValues.keys, isPlainName s = true) :
    Reads found [symbol .statement] := by
  obtain ⟨plainTable, plainKeys⟩ := List.forall_mem_cons.mp plain
  unfold insertTemplate at succeeds
  split at succeeds <;> cases succeeds
  rename_i given
  have given : draft.insertValues.entries ≠ [] := fun empty => given (List.isEmpty_iff.mpr empty)
  have closing : Spells ")" [sign ")"] := .of_mem [.sign ")"] (by decide)
  have between : Spells ") VALUES (" [sign ")", word "VALUES", sign "("] :=
    .of_mem [.sign ")", .keyword "VALUES", .sign "("] (by decide)
  have opening : Spells " (" [sign "("] := .of_mem [.sign "("] (by decide)
  have inserts : Spells "INSERT INTO " [word "INSERT", word "INTO"] :=
    .of_mem [.keyword "INSERT", .keyword "INTO"] (by decide)
  have keyed : draft.insertValues.keys ≠ [] := mt List.map_eq_nil_iff.mp given
  have valued : draft.insertValues.values ≠ [] := mt List.map_eq_nil_iff.mp given
  have bound := (Reads.values valued).1.append (Reads.nil.lone closing (by decide)) rfl
  have row := bound.lone between (by decide)
  have listed := ((Reads.fragments keyed plainKeys).1.append row rfl).lone opening (by decide)
  have whole := (listed.fragment plainTable rfl).blank inserts (by decide) plainTable
  simpa only [List.append_assoc, List.cons_append, List.nil_append] using
    whole.phrase (p := .statement) (by decide)

theorem reads_assignments {entries : List (String × Value)} (given : entries ≠ [])
    (plain : ∀ s ∈ entries.map Prod.fst, isPlainName s = true) :
    Reads (Template.commas (entries.map assignment)) [symbol .assignments]
      ∧ isSolid (Template.commas (entries.map assignment)) = true := by
  have equals : Spells " = " [sign "="] := .of_mem [.sign "="] (by decide)
  have each : ∀ entry ∈ entries,
      Reads (assignment entry) [Phrase.name, sign "=", Phrase.parameter]
        ∧ isSolid (assignment entry) = true := by
    intro entry member
    have plainKey := plain entry.1 (List.mem_map_of_mem member)
    have behind := (Reads.nil.bound entry.2 rfl).blank equals (by decide) rfl
    exact ⟨behind.fragment plainKey rfl, plainKey⟩
  exact Reads.commas (by decide) (by decide) given each

theorem reads_updateTemplate {draft : Draft} {found : Template}
    (succeeds : draft.updateTemplate = .ok found)
    (plain : ∀ s ∈ draft.table :: draft.updateValues.keys ++ draft.wheres.map Predicate.field,
      isPlainName s = true)
    (ordinary : ∀ p ∈ draft.wheres, p.operator ≠ .ilike) :
    Reads found [symbol .statement] := by
  simp only [List.forall_mem_append, List.forall_mem_cons, List.forall_mem_map] at plain
  obtain ⟨⟨plainTable, plainKeys⟩, plainWheres⟩ := plain
  unfold updateTemplate at succeeds
  split at succeeds
  · cases succeeds
  · rename_i given
    obtain ⟨wheres, whereWritten, succeeds⟩ := exists_ok_of_bind succeeds
    cases succeeds
    have given : draft.updateValues.entries ≠ [] := fun empty => given (List.isEmpty_iff.mpr empty)
    have sets : Spells " SET " [word "SET"] := .of_mem [.keyword "SET"] (by decide)
    have updates : Spells "UPDATE " [word "UPDATE"] :=
      .of_mem [.keyword "UPDATE"] (by decide)
    obtain ⟨rows, broken⟩ := Predicate.reads_whereClause whereWritten plainWheres ordinary
    obtain ⟨assigned, solid⟩ := reads_assignments given plainKeys
    have begins := isSolid_append solid wheres
    have behind := (assigned.append rows broken).blank sets (by decide) begins
    have whole := (behind.fragment plainTable rfl).blank updates (by decide) plainTable
    exact whole.phrase (by decide)

theorem reads_deleteTemplate {draft : Draft} {found : Template}
    (succeeds : draft.deleteTemplate = .ok found)
    (plain : ∀ s ∈ draft.table :: draft.wheres.map Predicate.field, isPlainName s = true)
    (ordinary : ∀ p ∈ draft.wheres, p.operator ≠ .ilike) :
    Reads found [symbol .statement] := by
  simp only [List.forall_mem_cons, List.forall_mem_map] at plain
  obtain ⟨plainTable, plainWheres⟩ := plain
  obtain ⟨wheres, whereWritten, succeeds⟩ := exists_ok_of_bind succeeds
  cases succeeds
  have deletes : Spells "DELETE FROM " [word "DELETE", word "FROM"] :=
    .of_mem [.keyword "DELETE", .keyword "FROM"] (by decide)
  obtain ⟨rows, broken⟩ := Predicate.reads_whereClause whereWritten plainWheres ordinary
  have whole := (rows.fragment plainTable broken).blank deletes (by decide) plainTable
  exact whole.phrase (by decide)

theorem terminals_nil : terminals [] = [] := by
  rw [terminals, Embedded.lexemes]
  rfl

/-- A form in which a template is read yields the terminals of its statement. -/
theorem yields_statement {found : Template} {form : Form} (reads : Reads found form) :
    Yields form (terminals (Template.statement found).sql.toList) := by
  obtain ⟨ts, read, yields⟩ := reads 1 [] fun c first => by cases first
  rw [List.append_nil, terminals_nil, List.append_nil] at read
  rw [Template.statement, String.toList_ofList, read]
  exact yields

/-- Rows are passed over only behind the greatest number of rows: without it, no page of the
grammar begins where the offset does. -/
theorem not_mem_language_of_unlimited {draft : Draft} {unpaged : Template} {m : Nat}
    (reads : Reads unpaged unpagedForm) (unlimited : draft.limit = none)
    (passing : draft.offset = some m) :
    terminals (Template.statement (unpaged ++ draft.pageClause)).sql.toList
      ∉ statements.language := by
  have page : draft.pageClause = countClause " OFFSET " (some m) := by
    rw [pageClause, unlimited, passing]
    rfl
  have ended : Breaks [] := fun c first => by cases first
  have breaks := Template.breaks_write draft.isBroken_pageClause ended (1 + unpaged.params.length)
  obtain ⟨ts, read, yields⟩ := reads 1 _ breaks
  have offset : terminals " OFFSET ".toList = [.keyword "OFFSET"] :=
    (Spells.seen_of_mem (by decide)).2
  rw [page, terminals_count (by decide) (by decide) m _ ended, offset, terminals_nil] at read
  rw [Template.statement, String.toList_ofList, Template.write_append, page, ← List.append_nil
    (Template.write _ (countClause " OFFSET " (some m))), read]
  refine Embedded.not_mem_language_of_offset yields ?_ (by decide) (by decide)
  unfold IsPageless unpagedForm
  decide

/-- Which statements are of the grammar.  A draft that takes over plain names only and does not
compare with `ILIKE` compiles to a statement of the grammar, whatever clauses and lists it has,
with one exception: a selection that passes over rows without a greatest number of rows. -/
theorem mem_language_iff_of_plain {draft : Draft} {statement : Statement}
    (compiled : draft.compile = .ok statement) (plain : ∀ s ∈ draft.taken, isPlainName s = true)
    (ordinary : ∀ p ∈ draft.rendered, p.operator ≠ .ilike) :
    terminals statement.sql.toList ∈ statements.language ↔
      ¬(draft.kind = some .select ∧ draft.limit = none ∧ draft.offset ≠ none) := by
  obtain ⟨found, succeeds, rfl⟩ := exists_ok_of_map compiled
  unfold template at succeeds
  unfold taken at plain
  unfold rendered at ordinary
  cases kind : draft.kind with
  | none => rw [kind] at succeeds; cases succeeds
  | some chosen =>
      rw [kind] at succeeds plain ordinary
      dsimp only at succeeds plain ordinary
      split at succeeds
      · cases succeeds
      · have sentence : Reads found [symbol .statement] -> chosen ≠ .select ->
            (terminals (Template.statement found).sql.toList ∈ statements.language ↔
              ¬(some chosen = some .select ∧ draft.limit = none ∧ draft.offset ≠ none)) :=
          fun reads other => iff_of_true (Embedded.mem_language_iff.mpr (yields_statement reads))
            fun passing => other (Option.some.inj passing.1)
        cases chosen with
        | select =>
            obtain ⟨body, written, succeeds⟩ := exists_ok_of_bind succeeds
            cases succeeds
            have unpaged := reads_unpaged written plain ordinary
            -- The page is the only clause that the draft alone decides about.
            by_cases limited : draft.limit = none -> draft.offset = none
            · have whole := unpaged.append (reads_pageClause limited) draft.isBroken_pageClause
              have yields := yields_statement (whole.phrase (p := .statement) (by decide))
              exact iff_of_true (Embedded.mem_language_iff.mpr yields)
                fun passing => passing.2.2 (limited passing.2.1)
            · obtain ⟨unlimited, passing⟩ := Classical.not_imp.mp limited
              obtain ⟨m, passed⟩ := Option.ne_none_iff_exists'.mp passing
              exact iff_of_false (not_mem_language_of_unlimited unpaged unlimited passed)
                (not_not_intro ⟨rfl, unlimited, passing⟩)
        | insert => exact sentence (reads_insertTemplate succeeds plain) (by decide)
        | update => exact sentence (reads_updateTemplate succeeds plain ordinary) (by decide)
        | delete => exact sentence (reads_deleteTemplate succeeds plain ordinary) (by decide)

/-- The origins of delayed flights of two carriers, or of those that flew them. -/
def delayedOrigins : Draft where
  kind := some .select
  table := "flights"
  columns := ["origin", "delay"]
  joins := [⟨.left, "carriers", some "c", "flown"⟩]
  wheres := [⟨"delay", .gt, .scalar (.int 15), .and⟩,
    ⟨"carrier", .isIn, .list [.text "AF", .text "KL"], .or⟩]
  groupBy := ["origin"]
  having := [⟨"delay", .isNotNull, .none, .and⟩]
  orderBy := [⟨"origin", .desc⟩, ⟨"delay", .asc⟩]
  limit := some 10
  offset := some 20

def delayedOriginsStatement : Statement where
  sql := "SELECT origin, delay FROM flights LEFT JOIN carriers AS c ON flown "
    ++ "WHERE delay > $1 OR carrier IN ($2, $3) GROUP BY origin HAVING delay IS NOT NULL "
    ++ "ORDER BY origin DESC, delay ASC LIMIT 10 OFFSET 20"
  params := [.int 15, .text "AF", .text "KL"]

theorem mem_language_delayedOrigins :
    delayedOrigins.compile = .ok delayedOriginsStatement
      ∧ (∀ s ∈ delayedOrigins.taken, isPlainName s = true)
      ∧ (∀ p ∈ delayedOrigins.rendered, p.operator ≠ .ilike)
      ∧ terminals delayedOriginsStatement.sql.toList ∈ statements.language := by
  have compiled : delayedOrigins.compile = .ok delayedOriginsStatement :=
    eq_ok_of_toOption (by decide +kernel)
  have plain : ∀ s ∈ delayedOrigins.taken, isPlainName s = true := by decide +kernel
  have ordinary : ∀ p ∈ delayedOrigins.rendered, p.operator ≠ .ilike := by decide
  exact ⟨compiled, plain, ordinary,
    (mem_language_iff_of_plain compiled plain ordinary).mpr fun passing =>
      absurd passing.2.1 (by decide)⟩

/-- The flights from the second one on. -/
def laterFlights : Draft where
  kind := some .select
  table := "flights"
  orderBy := [⟨"id", .asc⟩]
  offset := some 1

/-- It is not so that all statements with plain names are of the grammar: nothing limits the rows
of `SELECT * FROM flights ORDER BY id ASC OFFSET 1`. -/
theorem not_forall_mem_language :
    ¬ ∀ (draft : Draft) (statement : Statement), draft.compile = .ok statement ->
      (∀ s ∈ draft.taken, isPlainName s = true) ->
      (∀ p ∈ draft.rendered, p.operator ≠ .ilike) ->
      terminals statement.sql.toList ∈ statements.language := by
  intro claimed
  have plain : ∀ s ∈ laterFlights.taken, isPlainName s = true := by decide +kernel
  have ordinary : ∀ p ∈ laterFlights.rendered, p.operator ≠ .ilike := by decide
  have written : laterFlights.selectBody = .ok [.text " FROM ", .fragment "flights"] := rfl
  have unpaged := reads_unpaged written plain ordinary
  have sentence := claimed laterFlights _ rfl plain ordinary
  exact not_mem_language_of_unlimited unpaged rfl rfl sentence

end Draft
end SqlGate
