import Mathlib.Data.List.Perm.Basic
import SqlGate.Embedded.Engine
import SqlGate.Proofs.Query.Meaning

namespace SqlGate

/-!
# Counting rows

Counting sends the selection with its columns replaced by one that counts, without
order and page, and reads one number from the first row of the answer.  Without
fields to group by the answer is one row, and its number is that of the rows that
the selection returns.  With fields to group by there is a row for every group, each
with the size of that group.  The number read is then the size of whichever group
comes first, and the number of groups is not looked at.
-/

/-! ## Numbers in answers -/

/-- A whole number that was read as one of 64 bits is that number. -/
theorem Json.Numeral.toInt_of_toInt64? {n : Int}
    {range : -9223372036854775808 ≤ n ∧ n < 18446744073709551616} {found : Int64}
    (read : (Json.Numeral.whole n range).toInt64? = some found) : found.toInt = n := by
  change (if n < 9223372036854775808 then some (Int64.ofInt n) else none) = some found at read
  by_cases small : n < 9223372036854775808
  · rw [if_pos small] at read
    rw [← Option.some.inj read]
    exact Int64.toInt_ofInt_of_le range.1 small
  · rw [if_neg small] at read
    cases read

/-- A number of rows that could be read is the number that was written. -/
theorem eq_of_countOf {rows : Nat} {n : Int}
    (read : Builder.countOf (some (rowsDocument rows)) = .ok n) : n = rows := by
  by_cases range : -9223372036854775808 ≤ (rows : Int) ∧ (rows : Int) < 18446744073709551616
  · have document : rowsDocument rows = .number (.whole rows range) := by
      rw [rowsDocument, Json.ofInt?, dif_pos range, Json.orNull, Option.getD_some]
    rw [document, Builder.countOf] at read
    cases fits : (Json.Numeral.whole rows range).toInt64? with
    | none => simp only [fits, reduceCtorEq] at read
    | some found =>
        simp only [fits] at read
        rw [← Except.ok.inj read]
        exact Json.Numeral.toInt_of_toInt64? fits
  · have document : rowsDocument rows = .null := by
      rw [rowsDocument, Json.ofInt?, dif_neg range, Json.orNull, Option.getD_none]
    rw [document] at read
    cases read

/-- Whatever order rows shown for groups are in, it is an order of the groups. -/
theorem exists_map_of_perm {α β : Type} {f : α -> β} {shown : List β} {items : List α}
    (perm : shown.Perm (items.map f)) :
    ∃ order : List α, shown = order.map f ∧ order.Perm items := by
  have each : List.Forall₂ (fun b a => b = f a) (items.map f) items :=
    List.forall₂_map_left_iff.mpr (List.forall₂_same.mpr fun _ _ => rfl)
  obtain ⟨order, matched, also⟩ := List.perm_comp_forall₂ perm each
  exact ⟨order, List.forall₂_eq_eq_eq ▸ List.forall₂_map_right_iff.mpr matched, also⟩

namespace Contents

variable {ρ κ : Type}

/-- What is read from the rows that a count shows is the size of the first group, or nothing. -/
theorem eq_of_countIn (contents : Contents ρ κ) {groups : List (List ρ)} {result : QueryResult}
    {n : Int}
    (rows : result.rows = groups.map (contents.shown [countColumn]))
    (read : Builder.countIn result = .ok n) :
    n = ((groups.head?.map List.length).getD 0 : Nat) := by
  unfold Builder.countIn QueryResult.first? at read
  rw [rows] at read
  cases groups with
  | nil => exact (Except.ok.inj read).symm
  | cons group rest =>
      have named : (contents.shown [countColumn] group).get? "count"
          = some (rowsDocument group.length) := by
        rw [contents.shown_count, Ordered.ofList, Ordered.putAll_cons, Ordered.putAll_nil,
          Ordered.get?_put, if_pos rfl]
      simp only [List.map_cons, List.head?_cons, named, Option.some_or] at read
      exact eq_of_countOf read

/-! ## The rows behind a count -/

variable [DecidableEq κ] {contents : Contents ρ κ} {draft : Draft}

theorem selected_countDraft_of_ungrouped (ungrouped : draft.groupBy = [])
    (unconditional : draft.having = []) :
    contents.selected (Builder.countDraft draft) = [contents.matching draft] := by
  have collapses : contents.collapses (Builder.countDraft draft) = true := by
    simp only [collapses, Builder.countDraft, List.any_cons]
    rw [show "COUNT(*) AS count" = countColumn from rfl, contents.counts]
    rfl
  have groups : contents.groups (Builder.countDraft draft) = [contents.matching draft] := by
    unfold Contents.groups
    rw [if_pos (by simp [Builder.countDraft, ungrouped]), if_pos collapses]
    rfl
  rw [selected, groups]
  simp [Builder.countDraft, unconditional]

theorem selected_of_ungrouped (ungrouped : draft.groupBy = []) (unconditional : draft.having = [])
    (plain : ∀ column ∈ draft.columns, contents.isAggregate column = false) :
    contents.selected draft = (contents.matching draft).map fun row => [row] := by
  have alone : contents.collapses draft = false := by
    simpa [collapses, unconditional] using plain
  simp [selected, Contents.groups, ungrouped, unconditional, alone]

/-- With fields to group by the columns do not matter. -/
theorem selected_countDraft_of_grouped (isGrouped : draft.groupBy ≠ []) :
    contents.selected (Builder.countDraft draft) = contents.selected draft := by
  have apart : draft.groupBy.isEmpty = false := by simpa using isGrouped
  simp only [selected, Contents.groups, Builder.countDraft, apart, Bool.false_eq_true, if_false]
  rfl

end Contents

/-! ## Terminals on a connection that shows the contents -/

namespace Gateway

variable {σ ρ κ : Type} [DecidableEq κ] {driver : Driver σ} {m : ManagerId} {g : Gateway σ}
  {contents : Contents ρ κ} {draft : Draft}

/-- A statement that succeeds returns the rows that its draft means. -/
theorem Shows.rows_perm (shows : g.Shows driver m contents draft) {statement : Statement}
    {result : QueryResult} (compiled : draft.compile = .ok statement)
    (succeeds : (g.query driver m statement.sql statement.params).1 = .ok result) :
    result.rows.Perm (contents.answer draft) := by
  unfold query lend at succeeds
  cases acquired : g.acquire driver m Manager.acquireFailure with
  | mk asked lent =>
      rw [acquired] at succeeds
      cases asked with
      | error failure => cases succeeds
      | ok c =>
          dsimp only [runOn] at succeeds
          cases executed : driver.execute c statement.sql statement.params lent.database with
          | mk found after =>
              rw [executed] at succeeds
              cases found with
              | error fault => cases succeeds
              | ok answer =>
                  cases succeeds
                  exact shows c lent statement answer acquired compiled (by rw [executed])

/-- A connection on which the statement of a draft returned what the draft means shows the
contents. -/
theorem shows_of_query {statement : Statement} {result : QueryResult}
    (compiled : draft.compile = .ok statement)
    (succeeds : (g.query driver m statement.sql statement.params).1 = .ok result)
    (perm : result.rows.Perm (contents.answer draft)) : g.Shows driver m contents draft := by
  intro c lent other answer acquired alsoCompiled executed
  obtain rfl : statement = other := Except.ok.inj (compiled.symm.trans alsoCompiled)
  have shown : (g.query driver m statement.sql statement.params).1 = .ok answer.toResult := by
    unfold query lend runOn
    simp only [acquired]
    rcases ran : driver.execute c statement.sql statement.params lent.database with ⟨found, after⟩
    rw [ran] at executed
    dsimp only at executed
    rw [executed]
  have same : result = answer.toResult := Except.ok.inj (succeeds.symm.trans shown)
  rw [same] at perm
  exact perm

end Gateway

namespace Builder

variable {σ ρ κ : Type} [DecidableEq κ] {driver : Driver σ} {target : Option ManagerId}
  {b : Builder} {g : Gateway σ} {contents : Contents ρ κ}

/-- The builder without order and page. -/
def unpaged (b : Builder) : Builder :=
  b.edit fun d => { d with orderBy := [], limit := none, offset := none }

/-- A drafted builder that succeeds returns the rows that its draft means. -/
theorem rows_perm_of_runBuilt {draft : Draft} {built : Except CompileFault Statement}
    {result : QueryResult}
    (shows : ∀ m, target = some m -> g.Shows driver m contents draft)
    (compiled : ∀ statement, built = .ok statement -> draft.compile = .ok statement)
    (succeeds : (b.runBuilt driver target built g).1 = .ok result) :
    result.rows.Perm (contents.answer draft) := by
  cases built with
  | error fault => cases succeeds
  | ok statement =>
      cases target with
      | none => cases succeeds
      | some m => exact (shows m rfl).rows_perm (compiled statement rfl) succeeds

/-- The statement of a builder without a finished one is that of its draft. -/
theorem compile_of_build {statement : Statement} (drafted : b.raw = none)
    (built : b.build = .ok statement) : b.draft.compile = .ok statement := by
  unfold build at built
  rw [drafted] at built
  cases fault : b.fault with
  | none => rw [fault] at built; exact built
  | some found => rw [fault] at built; cases built

theorem compile_of_buildCount {statement : Statement} (drafted : b.raw = none)
    (built : b.buildCount = .ok statement) : (countDraft b.draft).compile = .ok statement := by
  unfold buildCount at built
  split at built
  · cases built
  · exact compile_of_build (b := b.edit countDraft) drafted built

/-- What is counted and what is returned, by connections that show the same contents.

The columns are no aggregates, and there are conditions on groups only where there are groups.
Without fields to group by, counting finds the matching rows and as many are returned.  With fields
to group by, one row is returned for every group, but the count is the size of the group that the
database happens to put first, or zero if there is no group. -/
theorem count_of_rows {g' : Gateway σ} {n : Int} {rows : List Row} (drafted : b.raw = none)
    (plain : ∀ column ∈ b.draft.columns, contents.isAggregate column = false)
    (conditional : b.draft.groupBy = [] -> b.draft.having = [])
    (counting : ∀ m, target = some m -> g.Shows driver m contents (countDraft b.draft))
    (returning : ∀ m, target = some m -> g'.Shows driver m contents b.unpaged.draft)
    (counted : (b.count driver target g).1 = .ok n)
    (returned : (b.unpaged.getMany driver target g').1 = .ok rows) :
    (b.draft.groupBy = [] -> n = (contents.matching b.draft).length ∧ n = rows.length)
      ∧ (b.draft.groupBy ≠ [] -> ∃ groups : List (List ρ),
        groups.Perm (contents.selected b.draft) ∧ rows.length = groups.length
        ∧ n = ((groups.head?.map List.length).getD 0 : Nat)) := by
  obtain ⟨countResult, countRan, read⟩ := exists_ok_of_bind counted
  obtain ⟨result, ran, shown⟩ := exists_ok_of_bind returned
  cases shown
  have countRows := rows_perm_of_runBuilt counting
    (fun _ => compile_of_buildCount drafted) countRan
  have lengths := (rows_perm_of_runBuilt returning
    (fun _ => compile_of_build (b := b.unpaged) drafted) ran).length_eq
  -- Order and page play no part in what a draft means.
  have unpaged : contents.selected b.unpaged.draft = contents.selected b.draft := rfl
  rw [Contents.answer, List.length_map, unpaged] at lengths
  -- The rows of the count are shown for the groups, in the order of the database.
  obtain ⟨groups, shownGroups, perm⟩ : ∃ groups : List (List ρ),
      countResult.rows = groups.map (contents.shown [countColumn])
        ∧ groups.Perm (contents.selected (countDraft b.draft)) :=
    exists_map_of_perm countRows
  have number := contents.eq_of_countIn shownGroups read
  refine ⟨fun ungrouped => ?_, fun isGrouped => ?_⟩
  · have unconditional := conditional ungrouped
    rw [Contents.selected_countDraft_of_ungrouped ungrouped unconditional,
      List.perm_singleton] at perm
    rw [Contents.selected_of_ungrouped ungrouped unconditional plain, List.length_map] at lengths
    rw [perm] at number
    exact ⟨number, by rw [lengths]; exact number⟩
  · rw [Contents.selected_countDraft_of_grouped isGrouped] at perm
    exact ⟨groups, perm, lengths.trans perm.length_eq.symm, number⟩

/-! ## One group -/

/-- A database in memory with a table of people, most of them in Rome. -/
def people : Gateway Embedded.Engine :=
  let empty : Gateway Embedded.Engine :=
    { database := { location := .memory }
      managers := [{ config := .sqlite ":memory:", pool := .ofConfig (.sqlite ":memory:") }] }
  (empty.query Embedded.Engine.driver 0
    ("CREATE TABLE people (city TEXT); "
      ++ "INSERT INTO people VALUES ('Rome'), ('Rome'), (NULL), ('Rome')") []).2

/-- The contents of this database; a row is the city in it. -/
def peopleContents : Contents (Option String) (Option String) where
  rows table joins :=
    if table = "people" ∧ joins = [] then [some "Rome", some "Rome", none, some "Rome"] else []
  holds p row :=
    if p.field = "city" then
      match p.operator with
      | .isNull => some row.isNone
      | .isNotNull => some row.isSome
      | _ => none
    else none
  key field row := if field = "city" then row else none
  holdsFor _ _ := none
  isAggregate column := column == countColumn
  shown columns group :=
    if columns = [countColumn] then Ordered.ofList [("count", rowsDocument group.length)]
    else Ordered.ofList (columns.map fun column =>
      (column, Json.orNull (group.head?.join.map Json.text)))
  counts := by decide
  shown_count _ := if_pos rfl

/-- The cities in which somebody is. -/
def cities : Builder :=
  (((Builder.new "people").select.columns ["city"]).whereNotNull "city").groupBy ["city"]

def citiesStatement : Statement :=
  ⟨"SELECT city FROM people WHERE city IS NOT NULL GROUP BY city", []⟩

def citiesCountStatement : Statement :=
  ⟨"SELECT COUNT(*) AS count FROM people WHERE city IS NOT NULL GROUP BY city", []⟩

def romeRow : Row := Ordered.ofList [("city", .text "Rome")]

theorem exists_result_of_cities :
    ∃ result, (people.query Embedded.Engine.driver 0 citiesStatement.sql []).1 = .ok result
      ∧ result.rows = [romeRow] := by
  have shown : (people.query Embedded.Engine.driver 0 citiesStatement.sql []).1.toOption.map
      QueryResult.rows = some [romeRow] := by decide +kernel
  obtain ⟨result, found, rows⟩ := Option.map_eq_some_iff.mp shown
  exact ⟨result, eq_ok_of_toOption found, rows⟩

theorem exists_result_of_citiesCount :
    ∃ result, (people.query Embedded.Engine.driver 0 citiesCountStatement.sql []).1 = .ok result
      ∧ result.rows = [Ordered.ofList [("count", rowsDocument 3)]] := by
  have shown : (people.query Embedded.Engine.driver 0 citiesCountStatement.sql []).1.toOption.map
      QueryResult.rows = some [Ordered.ofList [("count", rowsDocument 3)]] := by decide +kernel
  obtain ⟨result, found, rows⟩ := Option.map_eq_some_iff.mp shown
  exact ⟨result, eq_ok_of_toOption found, rows⟩

theorem build_cities : cities.unpaged.build = .ok citiesStatement :=
  eq_ok_of_toOption (by decide +kernel)

theorem buildCount_cities : cities.buildCount = .ok citiesCountStatement :=
  eq_ok_of_toOption (by decide +kernel)

theorem getMany_cities :
    (cities.unpaged.getMany Embedded.Engine.driver (some 0) people).1 = .ok [romeRow] := by
  obtain ⟨result, ran, rows⟩ := exists_result_of_cities
  rw [getMany, execute, build_cities, mapOutcome, runBuilt, run]
  change (people.query Embedded.Engine.driver 0 citiesStatement.sql []).1.bind _ = _
  rw [ran, ← rows]
  rfl

theorem count_cities : (cities.count Embedded.Engine.driver (some 0) people).1 = .ok 3 := by
  obtain ⟨result, ran, rows⟩ := exists_result_of_citiesCount
  rw [count, buildCount_cities, mapOutcome, runBuilt, run]
  change (people.query Embedded.Engine.driver 0 citiesCountStatement.sql []).1.bind _ = _
  rw [ran]
  change countIn result = _
  rw [countIn, QueryResult.first?, rows]
  exact eq_ok_of_toOption (by decide +kernel)

theorem shows_cities :
    people.Shows Embedded.Engine.driver 0 peopleContents cities.unpaged.draft := by
  obtain ⟨result, ran, rows⟩ := exists_result_of_cities
  refine Gateway.shows_of_query (compile_of_build rfl build_cities) ran ?_
  rw [rows]
  decide +kernel

theorem shows_countDraft_cities :
    people.Shows Embedded.Engine.driver 0 peopleContents (countDraft cities.draft) := by
  obtain ⟨result, ran, rows⟩ := exists_result_of_citiesCount
  refine Gateway.shows_of_query (compile_of_buildCount rfl buildCount_cities) ran ?_
  rw [rows]
  decide +kernel

/-- There is one group, so one row is returned, and its three people are counted. -/
theorem count_of_cities :
    ∃ groups : List (List (Option String)),
      groups.Perm (peopleContents.selected cities.draft)
        ∧ [romeRow].length = groups.length
        ∧ (3 : Int) = ((groups.head?.map List.length).getD 0 : Nat) :=
  (count_of_rows rfl (by decide) (by decide)
    (fun m same => by cases same; exact shows_countDraft_cities)
    (fun m same => by cases same; exact shows_cities) count_cities getMany_cities).2 (by decide)

/-- It is not so that counting always finds as many rows as are returned. -/
theorem not_forall_count_eq_length :
    ¬∀ (contents : Contents (Option String) (Option String)) (g g' : Gateway Embedded.Engine)
        (m : ManagerId) (b : Builder) (n : Int) (rows : List Row),
      b.raw = none ->
      (∀ column ∈ b.draft.columns, contents.isAggregate column = false) ->
      (b.draft.groupBy = [] -> b.draft.having = []) ->
      g.Shows Embedded.Engine.driver m contents (countDraft b.draft) ->
      g'.Shows Embedded.Engine.driver m contents b.unpaged.draft ->
      (b.count Embedded.Engine.driver (some m) g).1 = .ok n ->
      (b.unpaged.getMany Embedded.Engine.driver (some m) g').1 = .ok rows ->
      n = rows.length := by
  intro always
  have equal := always peopleContents people people 0 cities 3 [romeRow] rfl (by decide) (by decide)
    shows_countDraft_cities shows_cities count_cities getMany_cities
  exact absurd equal (by decide)

end Builder
end SqlGate
