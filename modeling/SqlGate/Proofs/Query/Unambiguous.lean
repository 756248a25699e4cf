import SqlGate.Proofs.Query.Conditions

namespace SqlGate

/-!
# Statements that can be read in one way

Every clause of a statement is legible in front of the clauses that may stand
behind it: the words between tell where it ends, and its keyword tells that it
is there.  So a statement can be read in one way, as the normal form of the
draft that it was compiled from, as long as the texts taken over from the
caller are words.  Words need not differ from the keywords of the language, for
no keyword stands where a word is expected.
-/

open Slot (chars apart Follows Opens)

/-! ## Joins -/

def JoinKind.openings : List String :=
  [" INNER JOIN ", " LEFT JOIN ", " RIGHT JOIN ", " FULL JOIN "]

theorem JoinKind.opening_mem (kind : JoinKind) : kind.opening ∈ openings := by
  cases kind <;> decide +kernel

theorem JoinKind.apart_opening (a b : JoinKind) (different : a ≠ b) :
    apart a.opening b.opening = true := by
  revert different
  cases a <;> cases b <;> decide +kernel

namespace Join

def IsProper (join : Join) : Prop :=
  ∀ s ∈ join.taken, Text.isWord s = true

theorem legible_slots {openings : List String}
    (breaking : ∀ k ∈ openings, Text.opensWithBreak k = true) :
    Legible openings slots id IsProper := by
  have named : Legible [" ON "]
      (Slot.clause " AS " Option.isNone fun given => given.elim [] chars) (Option.map id)
      fun given : Option String => ∀ s ∈ given, Text.isWord s = true :=
    (Legible.word _ (by decide)).option (by decide) (by decide)
  rintro ⟨kind, table, name, on⟩ ⟨otherKind, otherTable, otherName, otherOn⟩ properA properB behind
    after follows next same
  obtain ⟨wordTable, properA⟩ := List.forall_mem_cons.mp properA
  obtain ⟨wordName, wordOn⟩ := List.forall_mem_append.mp properA
  obtain ⟨wordOtherTable, properB⟩ := List.forall_mem_cons.mp properB
  obtain ⟨wordOtherName, wordOtherOn⟩ := List.forall_mem_append.mp properB
  simp only [slots, List.append_assoc] at same
  obtain ⟨kinds, same⟩ := Slot.eq_of_apart JoinKind.apart_opening same
  obtain ⟨tables, same⟩ := Legible.word [" AS ", " ON "] (by decide) wordTable
    wordOtherTable (Follows.self.clause _ _ _ _) (Follows.self.clause _ _ _ _) same
  obtain ⟨names, same⟩ := named (by simpa using wordName) (by simpa using wordOtherName)
    .self .self same
  obtain ⟨conditions, ended⟩ := Legible.word openings breaking (wordOn _ List.mem_cons_self)
    (wordOtherOn _ List.mem_cons_self) follows next (List.append_cancel_left same)
  rw [Option.map_id] at names
  exact ⟨(Join.mk.injEq ..).mpr ⟨kinds, tables, names, conditions⟩, ended⟩

theorem legible_joins (openings : List String)
    (breaking : ∀ k ∈ openings, Text.opensWithBreak k = true)
    (distinct : ∀ k ∈ JoinKind.openings, ∀ l ∈ openings, apart k l = true) :
    Legible openings (List.flatMap slots) (List.map id)
      fun joins => ∀ join ∈ joins, join.IsProper := by
  have ownBreaking : ∀ k ∈ JoinKind.openings, Text.opensWithBreak k = true := by decide
  have allBreaking : ∀ k ∈ JoinKind.openings ++ openings, Text.opensWithBreak k = true := by
    intro k member
    rcases List.mem_append.mp member with own | behind
    · exact ownBreaking k own
    · exact breaking k behind
  exact (legible_slots allBreaking).flatMap (fun join => ⟨_, join.kind.opening_mem, _, rfl⟩)
    (by decide) distinct

end Join

/-! ## Orders, numbers and payloads -/

namespace OrderBy

theorem legible_slots (openings : List String) :
    Legible openings slots id fun order => Text.isWord order.field = true := by
  have distinct : ∀ a b : Direction, a ≠ b -> apart (" " ++ a.sql) (" " ++ b.sql) = true := by
    intro a b
    cases a <;> cases b <;> decide
  have opens : ∀ (direction : Direction) (rest : List Slot),
      Follows [" ASC", " DESC"] (chars (" " ++ direction.sql) ++ rest) := by
    intro direction rest
    exact .opening (by cases direction <;> decide)
  rintro ⟨field, direction⟩ ⟨otherField, otherDirection⟩ wordA wordB behind after follows next same
  simp only [slots, List.append_assoc] at same
  obtain ⟨fields, same⟩ := Legible.word _ (by decide) wordA wordB (opens _ _) (opens _ _) same
  obtain ⟨directions, ended⟩ := Slot.eq_of_apart distinct same
  exact ⟨(OrderBy.mk.injEq ..).mpr ⟨fields, directions⟩, ended⟩

end OrderBy

namespace Draft

theorem legible_assignment (openings : List String) :
    Legible openings assignmentSlots id fun entry => Text.isWord entry.1 = true := by
  rintro ⟨key, v⟩ ⟨otherKey, w⟩ wordA wordB behind after follows next same
  simp only [assignmentSlots, List.append_assoc] at same
  obtain ⟨keys, same⟩ := Legible.word _ (by decide) wordA wordB .self .self same
  obtain ⟨values, ended⟩ := List.cons.inj (List.append_cancel_left same)
  exact ⟨Prod.ext keys (Slot.value.inj values), ended⟩

/-! ## Selections -/

/-- What clauses behind the joins open with. -/
def clauseOpenings : List String :=
  [" WHERE ", " GROUP BY ", " HAVING ", " ORDER BY ", " LIMIT ", " OFFSET "]

theorem opens_offset :
    Opens [] [" OFFSET "] fun draft : Draft => countSlots " OFFSET " draft.offset :=
  Slot.opens_clause _ _ _ _

theorem opens_pageSlots : Opens [] [" LIMIT ", " OFFSET "] pageSlots :=
  (Slot.opens_clause _ _ _ _).append opens_offset

theorem opens_fromOrder : Opens [] [" ORDER BY ", " LIMIT ", " OFFSET "] fromOrder :=
  (Slot.opens_clause _ _ _ _).append opens_pageSlots

theorem opens_fromHaving : Opens [] [" HAVING ", " ORDER BY ", " LIMIT ", " OFFSET "] fromHaving :=
  (Slot.opens_clause _ _ _ _).append opens_fromOrder

theorem opens_fromGroup :
    Opens [] [" GROUP BY ", " HAVING ", " ORDER BY ", " LIMIT ", " OFFSET "] fromGroup :=
  (Slot.opens_clause _ _ _ _).append opens_fromHaving

theorem opens_fromWhere : Opens [] clauseOpenings fromWhere :=
  (Slot.opens_clause _ _ _ _).append opens_fromGroup

theorem opens_clauseSlots : Opens [] (JoinKind.openings ++ clauseOpenings) clauseSlots := by
  intro draft behind follows
  rw [clauseSlots, List.append_assoc]
  exact (opens_fromWhere draft follows).flatMap
    (fun join => ⟨_, join.kind.opening_mem, _, rfl⟩) draft.joins

theorem opens_whereSlots : Opens [] [" WHERE "] whereSlots :=
  Slot.opens_clause _ _ _ _

theorem legible_whereSlots (openings : List String)
    (distinct : ∀ k ∈ [" WHERE ", " AND ", " OR "], ∀ l ∈ openings, apart k l = true) :
    Legible openings whereSlots (fun draft => Predicate.normalChain draft.wheres)
      fun draft => ∀ p ∈ draft.wheres, p.IsProper := by
  have joins : ∀ p : Predicate, p.connective.joint ∈ [" AND ", " OR "] := by
    intro p
    cases p.connective <;> decide
  have rows := (Predicate.legible_chain openings " WHERE " Predicate.legible_link joins distinct
    (by decide)).comp Draft.wheres
  intro d e properD properE behind after follows next same
  obtain ⟨read, ended⟩ := rows properD properE follows next same
  simp only [Predicate.readChain_normal] at read
  exact ⟨read, ended⟩

theorem legible_havingSlots (openings : List String)
    (distinct : ∀ k ∈ [" HAVING ", " AND ", " OR "], ∀ l ∈ openings, apart k l = true) :
    Legible openings havingSlots (fun draft => draft.having.map Predicate.alone)
      fun draft => ∀ p ∈ draft.having, p.IsProper := by
  have groups := (Predicate.legible_chain openings " HAVING " Predicate.legible_followingAnd
    (fun _ => by decide) distinct (by decide)).comp Draft.having
  intro d e properD properE behind after follows next same
  obtain ⟨read, ended⟩ := groups properD properE follows next same
  simp only [Predicate.readChain_alone] at read
  exact ⟨read, ended⟩

theorem legible_count (openings : List String) (keyword : String)
    (breaking : ∀ k ∈ openings, Text.opensWithBreak k = true)
    (distinct : ∀ l ∈ openings, apart keyword l = true) (begins : keyword.toList ≠ []) :
    Legible openings (countSlots keyword) (Option.map id) fun count => ∀ n ∈ count, True :=
  (Legible.number openings breaking).option begins distinct

/-- Behind the table of a selection, every clause can be read in one way. -/
theorem legible_clauseSlots :
    Legible [] clauseSlots
      (fun draft => (draft.joins, Predicate.normalChain draft.wheres, draft.groupBy,
        draft.having.map Predicate.alone, draft.orderBy, draft.limit, draft.offset))
      fun draft => (∀ join ∈ draft.joins, join.IsProper) ∧ (∀ p ∈ draft.wheres, p.IsProper)
        ∧ (∀ s ∈ draft.groupBy, Text.isWord s = true) ∧ (∀ p ∈ draft.having, p.IsProper)
        ∧ ∀ o ∈ draft.orderBy, Text.isWord o.field = true := by
  -- From the last clause to the first: what may stand behind a clause are the clauses after it.
  have offset := (legible_count [] " OFFSET " (by decide) (by decide) (by decide)).comp Draft.offset
  have limit := (legible_count [" OFFSET "] " LIMIT " (by decide) (by decide)
    (by decide)).comp Draft.limit
  have order := ((OrderBy.legible_slots [", ", " LIMIT ", " OFFSET "]).listClause " ORDER BY "
    (by decide) (by decide)).comp Draft.orderBy
  have having := legible_havingSlots [" ORDER BY ", " LIMIT ", " OFFSET "] (by decide)
  have group := ((Legible.word [", ", " HAVING ", " ORDER BY ", " LIMIT ", " OFFSET "]
    (by decide)).listClause " GROUP BY " (by decide) (by decide)).comp Draft.groupBy
  have rows := legible_whereSlots [" GROUP BY ", " HAVING ", " ORDER BY ", " LIMIT ", " OFFSET "]
    (by decide)
  have joins := (Join.legible_joins clauseOpenings (by decide) (by decide)).comp Draft.joins
  have whole := joins.append (rows.append (group.append (having.append (order.append
    (limit.append offset opens_offset) opens_pageSlots) opens_fromOrder) opens_fromHaving)
    opens_fromGroup) opens_fromWhere
  intro d e properD properE behind after follows next same
  have everyCount : ∀ (count : Option Nat), ∀ n ∈ count, True := fun _ _ _ => trivial
  obtain ⟨joinsD, wheresD, groupByD, havingD, orderByD⟩ := properD
  obtain ⟨joinsE, wheresE, groupByE, havingE, orderByE⟩ := properE
  obtain ⟨read, ended⟩ := whole
    ⟨joinsD, wheresD, groupByD, havingD, orderByD, everyCount _, everyCount _⟩
    ⟨joinsE, wheresE, groupByE, havingE, orderByE, everyCount _, everyCount _⟩ follows next same
  simp only [List.map_id, Option.map_id, id] at read
  exact ⟨read, ended⟩

/-! ## Statements of each kind -/

/-- A draft of words whose predicates have what their operators take and whose payload is there, as
far as a kind writes them. -/
def IsProper (draft : Draft) : StatementKind -> Prop
  | .select =>
      (∀ s ∈ draft.shown, Text.isWord s = true) ∧ Text.isWord draft.table = true
        ∧ (∀ join ∈ draft.joins, join.IsProper) ∧ (∀ p ∈ draft.wheres, p.IsProper)
        ∧ (∀ s ∈ draft.groupBy, Text.isWord s = true) ∧ (∀ p ∈ draft.having, p.IsProper)
        ∧ ∀ o ∈ draft.orderBy, Text.isWord o.field = true
  | .insert =>
      Text.isWord draft.table = true ∧ draft.insertValues.entries ≠ []
        ∧ ∀ s ∈ draft.insertValues.keys, Text.isWord s = true
  | .update =>
      Text.isWord draft.table = true ∧ draft.updateValues.entries ≠ []
        ∧ (∀ entry ∈ draft.updateValues.entries, Text.isWord entry.1 = true)
        ∧ ∀ p ∈ draft.wheres, p.IsProper
  | .delete => Text.isWord draft.table = true ∧ ∀ p ∈ draft.wheres, p.IsProper

/-- What is there and made of words is proper. -/
theorem isProper_of_fits {draft : Draft} {kind : StatementKind} (chosen : draft.kind = some kind)
    (fits : draft.Fits kind) (words : ∀ s ∈ draft.taken, Text.isWord s = true) :
    draft.IsProper kind := by
  rw [taken, chosen] at words
  have proper : ∀ {ps : List Predicate}, (∀ s ∈ ps.map Predicate.field, Text.isWord s = true) ->
      (∀ p ∈ ps, p.Fits) -> ∀ p ∈ ps, p.IsProper :=
    fun named fit p member => ⟨named _ (List.mem_map_of_mem member), fit p member⟩
  cases kind with
  | select =>
      simp only [List.forall_mem_append, List.forall_mem_cons] at words
      rcases words with ⟨⟨⟨⟨⟨columns, table, joins⟩, rows⟩, groupBy⟩, groups⟩, orderBy⟩
      have shownWords : ∀ s ∈ draft.shown, Text.isWord s = true := by
        unfold shown
        split
        · decide
        · exact columns
      refine ⟨shownWords, table, ?_, proper rows fits.1, groupBy, proper groups fits.2, ?_⟩
      · exact fun join member s taken => joins s (List.mem_flatMap.mpr ⟨join, member, taken⟩)
      · exact fun o member => orderBy _ (List.mem_map_of_mem member)
  | insert =>
      have parts := List.forall_mem_cons.mp words
      exact ⟨parts.1, fits, parts.2⟩
  | update =>
      simp only [List.forall_mem_append, List.forall_mem_cons] at words
      rcases words with ⟨⟨table, keys⟩, rows⟩
      exact ⟨table, fits.1, fun entry member => keys _ (List.mem_map_of_mem member),
        proper rows fits.2⟩
  | delete =>
      have parts := List.forall_mem_cons.mp words
      exact ⟨parts.1, proper parts.2 fits⟩

theorem shown_ne_nil (draft : Draft) : draft.shown ≠ [] := by
  unfold shown
  cases draft.columns <;> simp

/-- The normal form of a draft as one of a kind. -/
def normalAs (kind : StatementKind) (draft : Draft) : Draft :=
  normal { draft with kind := some kind }

theorem legible_select :
    Legible [] (bodySlots · .select) (normalAs .select) (IsProper · .select) := by
  intro d e properD properE behind after follows next same
  simp only [bodySlots, List.append_assoc] at same
  obtain ⟨wordsD, tableD, clausesD⟩ := properD
  obtain ⟨wordsE, tableE, clausesE⟩ := properE
  have columns := (Legible.word [", ", " FROM "] (by decide)).listed (by decide)
  obtain ⟨shown, same⟩ := columns ⟨d.shown_ne_nil, wordsD⟩ ⟨e.shown_ne_nil, wordsE⟩
    .self .self same
  obtain ⟨table, same⟩ := Legible.word (JoinKind.openings ++ clauseOpenings) (by decide)
    tableD tableE (opens_clauseSlots d follows) (opens_clauseSlots e next)
    (List.append_cancel_left same)
  obtain ⟨clauses, ended⟩ := legible_clauseSlots clausesD clausesE follows next same
  rw [List.map_id, List.map_id] at shown
  have alike : d.normalAs .select = e.normalAs .select := by
    obtain ⟨joins, wheres, groupBy, having, orderBy, limit, offset⟩ := by
      simpa only [Prod.mk.injEq] using clauses
    unfold Draft.shown at shown
    simp only [normalAs, normal, id.eq_1] at table ⊢
    rw [table, shown, joins, wheres, groupBy, having, orderBy, limit, offset]
  exact ⟨alike, ended⟩

theorem legible_insert :
    Legible [] (bodySlots · .insert) (normalAs .insert) (IsProper · .insert) := by
  intro d e properD properE behind after follows next same
  simp only [bodySlots, List.append_assoc] at same
  obtain ⟨tableD, someD, keysD⟩ := properD
  obtain ⟨tableE, someE, keysE⟩ := properE
  have noKeys : ∀ payload : Ordered Value, payload.entries ≠ [] -> payload.keys ≠ [] :=
    fun payload some => mt List.map_eq_nil_iff.mp some
  have noValues : ∀ payload : Ordered Value, payload.entries ≠ [] -> payload.values ≠ [] :=
    fun payload some => mt List.map_eq_nil_iff.mp some
  have listedKeys := (Legible.word [", ", ") VALUES ("] (by decide)).listed (by decide)
  obtain ⟨table, same⟩ := Legible.word _ (by decide) tableD tableE .self .self same
  obtain ⟨keys, same⟩ := listedKeys ⟨noKeys _ someD, keysD⟩ ⟨noKeys _ someE, keysE⟩
    .self .self (List.append_cancel_left same)
  obtain ⟨values, same⟩ := Operand.legible_values [")"] (by decide)
    ⟨noValues _ someD, fun _ _ => trivial⟩ ⟨noValues _ someE, fun _ _ => trivial⟩
    .self .self (List.append_cancel_left same)
  rw [List.map_id, List.map_id] at keys values
  have entries : d.insertValues.entries = e.insertValues.entries :=
    (List.zip_of_prod keys values).trans (List.zip_of_prod rfl rfl).symm
  have payload : d.insertValues = e.insertValues := Ordered.eq_of_entries entries
  have alike : d.normalAs .insert = e.normalAs .insert := by
    simp only [normalAs, normal, id.eq_1] at table ⊢
    rw [table, payload]
  exact ⟨alike, List.append_cancel_left same⟩

theorem legible_update :
    Legible [] (bodySlots · .update) (normalAs .update) (IsProper · .update) := by
  intro d e properD properE behind after follows next same
  simp only [bodySlots, List.append_assoc] at same
  obtain ⟨tableD, someD, keysD, rowsD⟩ := properD
  obtain ⟨tableE, someE, keysE, rowsE⟩ := properE
  have assignments := (legible_assignment [", ", " WHERE "]).listed (by decide)
  obtain ⟨table, same⟩ := Legible.word _ (by decide) tableD tableE .self .self same
  obtain ⟨entries, same⟩ := assignments ⟨someD, keysD⟩ ⟨someE, keysE⟩ (opens_whereSlots d follows)
    (opens_whereSlots e next) (List.append_cancel_left same)
  obtain ⟨rows, ended⟩ := legible_whereSlots [] (by decide) rowsD rowsE follows next same
  rw [List.map_id, List.map_id] at entries
  have payload : d.updateValues = e.updateValues := Ordered.eq_of_entries entries
  have alike : d.normalAs .update = e.normalAs .update := by
    simp only [normalAs, normal, id.eq_1] at table rows ⊢
    rw [table, payload, rows]
  exact ⟨alike, ended⟩

theorem legible_delete :
    Legible [] (bodySlots · .delete) (normalAs .delete) (IsProper · .delete) := by
  intro d e properD properE behind after follows next same
  simp only [bodySlots, List.append_assoc] at same
  obtain ⟨table, same⟩ := Legible.word _ (by decide) properD.1 properE.1
    (opens_whereSlots d follows) (opens_whereSlots e next) same
  obtain ⟨rows, ended⟩ := legible_whereSlots [] (by decide) properD.2 properE.2 follows next
    same
  have alike : d.normalAs .delete = e.normalAs .delete := by
    simp only [normalAs, normal, id.eq_1] at table rows ⊢
    rw [table, rows]
  exact ⟨alike, ended⟩

theorem legible_bodySlots (kind : StatementKind) :
    Legible [] (bodySlots · kind) (normalAs kind) (IsProper · kind) := by
  cases kind with
  | select => exact legible_select
  | insert => exact legible_insert
  | update => exact legible_update
  | delete => exact legible_delete

/-! ## Compiled drafts -/

theorem apart_keyword (a b : StatementKind) (different : a ≠ b) :
    apart (keyword a) (keyword b) = true := by
  revert different
  cases a <;> cases b <;> decide +kernel

theorem normalAs_of_kind {draft : Draft} {kind : StatementKind} (chosen : draft.kind = some kind) :
    draft.normalAs kind = draft.normal := by
  rw [normalAs, ← chosen]

theorem noDollar_of_word {s : String} (word : Text.isWord s = true) : '$' ∉ s.toList := by
  intro member
  have noBreak := List.all_eq_true.mp word '$' member
  exact absurd noBreak (by decide)

/-- Compilation is unambiguous.  Two drafts that compile, and take over nothing but words, have the
same statement if and only if they have the same normal form.  It does not matter whether words are
empty or read like keywords. -/
theorem statement_eq_iff_normal_eq {d e : Draft} {s t : Statement} (compiled : d.compile = .ok s)
    (alsoCompiled : e.compile = .ok t) (words : ∀ name ∈ d.taken, Text.isWord name = true)
    (otherWords : ∀ name ∈ e.taken, Text.isWord name = true) : s = t ↔ d.normal = e.normal := by
  constructor
  · intro same
    obtain ⟨front, written, rfl⟩ := exists_ok_of_map compiled
    obtain ⟨other, alsoWritten, rfl⟩ := exists_ok_of_map alsoCompiled
    -- No word holds a dollar sign, so the text tells where each parameter stood.
    have slots := Template.slots_eq_of_statement (layout_template written)
      (layout_template alsoWritten) (fun name member => noDollar_of_word (words name member))
      (fun name member => noDollar_of_word (otherWords name member)) same
    obtain ⟨kind, chosen, text, fits⟩ := slots_template written
    obtain ⟨otherKind, alsoChosen, otherText, alsoFits⟩ := slots_template alsoWritten
    rw [text, otherText] at slots
    -- The keyword in front tells the kind; the rest is read as a statement of that kind.
    obtain ⟨rfl, bodies⟩ := Slot.eq_of_apart apart_keyword slots
    have alike := legible_bodySlots kind (isProper_of_fits chosen fits words)
      (isProper_of_fits alsoChosen alsoFits otherWords) .nil .nil (congrArg (· ++ []) bodies)
    rw [← normalAs_of_kind chosen, ← normalAs_of_kind alsoChosen]
    exact alike.1
  · intro alike
    have compiledAlike : d.compile = e.compile := by
      rw [← compile_normal d, alike, compile_normal e]
    rw [compiled, alsoCompiled] at compiledAlike
    exact Except.ok.inj compiledAlike

/-- Flights from one place, asked for as a value. -/
def fromLax : Draft :=
  { kind := some .select
    table := "flights"
    wheres := [⟨"origin", .isIn, .scalar (.text "LAX"), .or⟩, ⟨"gate", .isNull, .none, .or⟩]
    limit := some 10 }

/-- The same flights, asked for as a list; the payload is left over. -/
def fromLaxListed : Draft :=
  { kind := some .select
    table := "flights"
    columns := ["*"]
    wheres :=
      [⟨"origin", .isIn, .list [.text "LAX"], .and⟩, ⟨"gate", .isNull, .scalar (.int 7), .or⟩]
    limit := some 10
    insertValues := Ordered.ofList [("origin", .text "SFO")] }

def fromLaxStatement : Statement :=
  ⟨"SELECT * FROM flights WHERE origin IN ($1) OR gate IS NULL LIMIT 10", [.text "LAX"]⟩

/-- All that the two differ in is what their statement does not tell. -/
theorem normal_eq_of_fromLax :
    fromLax.compile = .ok fromLaxStatement ∧ fromLaxListed.compile = .ok fromLaxStatement
      ∧ fromLax.normal = fromLaxListed.normal := by
  have compiled : fromLax.compile = .ok fromLaxStatement := eq_ok_of_toOption (by decide +kernel)
  have alsoCompiled : fromLaxListed.compile = .ok fromLaxStatement :=
    eq_ok_of_toOption (by decide +kernel)
  have alike := statement_eq_iff_normal_eq compiled alsoCompiled (by decide +kernel)
    (by decide +kernel)
  exact ⟨compiled, alsoCompiled, alike.mp rfl⟩

end Draft
end SqlGate
