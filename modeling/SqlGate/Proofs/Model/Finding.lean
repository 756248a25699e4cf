import Mathlib.Data.List.Induction
import SqlGate.Proofs.Metadata.Sharing
import SqlGate.Proofs.Model.Terminals

namespace SqlGate

/-!
# Finding objects of registered types

What a model does depends on the whole history of the registry.  Types are
registered step by step, in any order and by halves, blank tables and keys are
refused, and the registry may be cleared in between.  Of all this only the accepted
registrations of the model's own type since the last clearing count; of these the
last table, the last key, and the last column for that key.

From them it can be told beforehand what the model lacks first, or which statement
it sends.  The registry, the builder and the compiler do not appear in what is told.
-/

/-! ## Registries that are cleared -/

/-- A step of a registry. -/
inductive RegistryStep where
  | call (call : RegistryCall)
  | clear
deriving DecidableEq, Repr

namespace Registry

def follow (r : Registry) : RegistryStep -> Registry
  | .call call => r.perform call
  | .clear => r.clear

def followAll (r : Registry) (run : List RegistryStep) : Registry :=
  run.foldl follow r

/-- The calls since the registry was cleared last. -/
def sinceClear (run : List RegistryStep) : List RegistryCall :=
  run.foldl (fun calls step =>
    match step with
    | .call call => calls ++ [call]
    | .clear => []) []

/-- Clearing makes all that was done before it as if it had not been done. -/
theorem followAll_eq (run : List RegistryStep) :
    empty.followAll run = empty.performAll (sinceClear run) := by
  induction run using List.reverseRecOn with
  | nil => rfl
  | append_singleton run step ih =>
      have last : empty.followAll (run ++ [step]) = (empty.followAll run).follow step := by
        simp [followAll]
      rw [last, ih]
      cases step with
      | clear => simp [sinceClear, follow, clear, performAll]
      | call call => simp [sinceClear, follow, performAll]

/-! ## What is known of a type -/

/-- The accepted registrations of a type since the registry was cleared last. -/
def known (run : List RegistryStep) (type : ModelType) : List Registration :=
  history (sinceClear run) type

end Registry

namespace Registration

def lastTable? (known : List Registration) : Option String :=
  (known.filterMap table?).getLast?

def lastKey? (known : List Registration) : Option String :=
  (known.filterMap primaryKey?).getLast?

/-- The name of the column registered last for a property. -/
def lastColumn? (known : List Registration) (property : String) : Option String :=
  ((known.filterMap column?).filter fun column =>
    decide (column.property = property)).getLast?.map ColumnMetadata.name

/-- The column of a property; a property without one is its own column. -/
def columnOf (known : List Registration) (property : String) : String :=
  (lastColumn? known property).getD property

end Registration

namespace Registry

open Registration (lastTable? lastKey? columnOf)

/-- Blank tables were not accepted. -/
theorem not_blank_of_lastTable {run : List RegistryStep} {type : ModelType} {table : String}
    (last : lastTable? (known run type) = some table) : Text.isBlankText table = false := by
  obtain ⟨registration, member, isTable⟩ := List.mem_filterMap.mp (List.mem_of_getLast? last)
  obtain ⟨call, counted, rfl⟩ := List.mem_map.mp member
  have accepted := (List.mem_filter.mp counted).2
  simp only [RegistryCall.countsFor, Bool.and_eq_true, Bool.not_eq_eq_eq_not, Bool.not_true]
    at accepted
  cases registration : call.registration with
  | table name =>
      rw [registration] at isTable accepted
      cases isTable
      exact accepted.2
  | primaryKey property => rw [registration] at isTable; cases isTable
  | column added => rw [registration] at isTable; cases isTable
  | relationship added => rw [registration] at isTable; cases isTable

theorem metadata?_of_known_nil {run : List RegistryStep} {type : ModelType}
    (nothing : known run type = []) : (empty.followAll run).metadata? type = none := by
  have entry := (reflects_performAll (sinceClear run) type).registered
  rw [← followAll_eq, isRegistered] at entry
  rw [known] at nothing
  rw [nothing] at entry
  exact Option.isSome_eq_false_iff.mp entry |> Option.isNone_iff_eq_none.mp

/-- The entry of a type shows the table, the key and the columns registered last. -/
theorem exists_metadata {run : List RegistryStep} {type : ModelType}
    (something : known run type ≠ []) :
    ∃ m, (empty.followAll run).metadata? type = some m
      ∧ m.tableName = (lastTable? (known run type)).getD ""
      ∧ m.primaryKey = lastKey? (known run type)
      ∧ ∀ property, m.columnName property = columnOf (known run type) property := by
  have reflects := reflects_performAll (sinceClear run) type
  rw [← followAll_eq] at reflects
  obtain ⟨registered, table, primaryKey, columns, -⟩ := reflects
  rw [isRegistered] at registered
  have there : ((empty.followAll run).metadata? type).isSome = true := by
    rw [registered]
    simpa [known] using something
  obtain ⟨m, entry⟩ := Option.isSome_iff_exists.mp there
  rw [entry, Option.getD_some] at table primaryKey columns
  refine ⟨m, entry, table, primaryKey, fun property => ?_⟩
  rw [ModelMetadata.columnName, columns.get?]
  rfl

/-- A type has a table once one was accepted. -/
theorem hasTable_eq {run : List RegistryStep} {type : ModelType} {m : ModelMetadata}
    (table : m.tableName = (lastTable? (known run type)).getD "") :
    m.hasTable = (lastTable? (known run type)).isSome := by
  rw [ModelMetadata.hasTable, table]
  cases last : lastTable? (known run type) with
  | none => rfl
  | some name =>
      have written := not_blank_of_lastTable last
      have nonempty : name ≠ "" := by
        rintro rfl
        exact absurd written (by decide)
      simpa using nonempty

/-- The table of a type is the one accepted last. -/
theorem tableName?_followAll (run : List RegistryStep) (type : ModelType) :
    (empty.followAll run).tableName? type = lastTable? (known run type) := by
  by_cases nothing : known run type = []
  · rw [tableName?, metadata?_of_known_nil nothing, nothing]
    rfl
  · obtain ⟨m, entry, table, -, -⟩ := exists_metadata nothing
    have hasTable := hasTable_eq table
    rw [tableName?, entry]
    cases last : lastTable? (known run type) with
    | none =>
        rw [last] at hasTable
        simp [Option.filter, hasTable]
    | some name =>
        rw [last] at hasTable table
        simp [Option.filter, hasTable, table]

end Registry

/-! ## The two statements -/

def findStatement (table column : String) (id : Value) : Statement :=
  ⟨"SELECT * FROM " ++ table ++ " WHERE " ++ column ++ " = $1 LIMIT 1", [id]⟩

namespace Builder

theorem buildOne_find {table : String} (written : Text.isBlankText table = false)
    (column : String) (id : Value) :
    ((new table).select.whereEq column id).buildOne = .ok (findStatement table column id) := by
  have template : ((new table).select.whereEq column id |>.limit 1).draft.template
      = .ok [.text "SELECT ", .text "*", .text " FROM ", .fragment table, .text " WHERE ",
          .fragment column, .text " = ", .bound id, .text " LIMIT 1"] := by
    unfold Draft.template
    change (if Text.isBlankText table then _ else _) = _
    rw [written]
    rfl
  have built : ((new table).select.whereEq column id).buildOne
      = ((new table).select.whereEq column id |>.limit 1).draft.template.map Template.statement :=
    rfl
  rw [built, template]
  refine congrArg Except.ok (congrArg₂ Statement.mk (String.toList_injective ?_) rfl)
  simp [Template.write, Placeholder.write]
  rfl

theorem build_select {table : String} (written : Text.isBlankText table = false) :
    (new table).select.build = .ok ⟨"SELECT * FROM " ++ table, []⟩ := by
  have template : (new table).select.draft.template
      = .ok [.text "SELECT ", .text "*", .text " FROM ", .fragment table] := by
    unfold Draft.template
    change (if Text.isBlankText table then _ else _) = _
    rw [written]
    rfl
  have built : (new table).select.build
      = (new table).select.draft.template.map Template.statement := rfl
  rw [built, template]
  refine congrArg Except.ok (congrArg₂ Statement.mk (String.toList_injective ?_) rfl)
  simp [Template.write]

end Builder

/-! ## Models -/

namespace Model

open Registry (known)
open Registration (lastTable? lastKey? columnOf)

variable {α σ : Type} (model : Model α) (run : List RegistryStep)

/-- What a model lacks first, given what is known of its type. -/
def firstMissing? (known : List Registration) : Option Missing :=
  if known.isEmpty then some .metadata
  else if (lastKey? known).isNone then some .primaryKey
  else if (lastTable? known).isNone then some .tableName
  else if model.target.isNone then some .connection
  else none

/-- What a model lacks to begin a selection. -/
def firstMissingForQuery? (known : List Registration) : Option Missing :=
  if (lastTable? known).isNone then some .tableName
  else if model.target.isNone then some .connection
  else none

/-- The builder that finds an object is refused for what the model lacks first, and else made of the
table and the key registered last. -/
theorem findBuilder_of_run (id : Value) :
    (∀ missing, model.firstMissing? (known run model.readable.type) = some missing ->
      model.findBuilder (Registry.empty.followAll run) id = .error (model.lacks missing))
    ∧ (model.firstMissing? (known run model.readable.type) = none ->
      ∃ manager key table m, model.target = some manager
        ∧ lastKey? (known run model.readable.type) = some key
        ∧ lastTable? (known run model.readable.type) = some table
        ∧ model.metadata? (Registry.empty.followAll run) = some m
        ∧ model.findBuilder (Registry.empty.followAll run) id
          = .ok (m, (Builder.new table).select.whereEq
              (columnOf (known run model.readable.type) key) id)) := by
  unfold firstMissing? findBuilder metadata?
  by_cases nothing : known run model.readable.type = []
  · rw [Registry.metadata?_of_known_nil nothing, nothing]
    exact ⟨fun missing found => by cases found; rfl, fun found => nomatch found⟩
  · obtain ⟨m, entry, table, primaryKey, columns⟩ := Registry.exists_metadata nothing
    have hasTable := Registry.hasTable_eq table
    rw [entry]
    dsimp only
    rw [if_neg (by simpa using nothing), ModelMetadata.primaryKeyColumn, primaryKey, hasTable]
    cases lastKey : lastKey? (known run model.readable.type) with
    | none => exact ⟨fun missing found => by cases found; rfl, fun found => nomatch found⟩
    | some key =>
        cases lastTable : lastTable? (known run model.readable.type) with
        | none => exact ⟨fun missing found => by cases found; rfl, fun found => nomatch found⟩
        | some name =>
            cases target : model.target with
            | none => exact ⟨fun missing found => by cases found; rfl, fun found => nomatch found⟩
            | some manager =>
                refine ⟨fun missing found => (nomatch found), fun _ => ?_⟩
                rw [lastTable, Option.getD_some] at table
                refine ⟨manager, key, name, m, rfl, rfl, rfl, rfl, ?_⟩
                simp [columns, table]

/-- A selection of all objects is refused for what the model lacks first, and else made of the
table registered last. -/
theorem query_of_run :
    (∀ missing, model.firstMissingForQuery? (known run model.readable.type) = some missing ->
      model.query (Registry.empty.followAll run) = .error (model.lacks missing))
    ∧ (model.firstMissingForQuery? (known run model.readable.type) = none ->
      ∃ table b, lastTable? (known run model.readable.type) = some table
        ∧ model.query (Registry.empty.followAll run) = .ok b
        ∧ b.build = .ok ⟨"SELECT * FROM " ++ table, []⟩) := by
  unfold firstMissingForQuery? query
  rw [Registry.tableName?_followAll]
  cases lastTable : lastTable? (known run model.readable.type) with
  | none => exact ⟨fun missing found => by cases found; rfl, fun found => nomatch found⟩
  | some table =>
      cases target : model.target with
      | none => exact ⟨fun missing found => by cases found; rfl, fun found => nomatch found⟩
      | some manager =>
          exact ⟨fun missing found => (nomatch found), fun _ => ⟨table, (Builder.new table).select,
            rfl, rfl, Builder.build_select (Registry.not_blank_of_lastTable lastTable)⟩⟩

/-- What is found for a key is nothing exactly if there is no row. -/
theorem found_eq_none_iff (m : ModelMetadata) (result : QueryResult) :
    model.found m result = .ok none ↔ result.rows = [] := by
  unfold found QueryResult.first?
  cases result.rows with
  | nil => exact iff_of_true rfl rfl
  | cons row rest =>
      refine iff_of_false (fun ended => ?_) (List.cons_ne_nil _ _)
      obtain ⟨object, -, same⟩ := exists_ok_of_map ended
      cases same

/-- Whatever happened to the registry, finding an object by its key fails with the first thing that
the model lacks and says nothing to any pool, or it asks the pool of its manager once, and if a
connection is lent it sends one statement, made of the table, the key and the column for the key
that were registered last.  This is all that its driver hears.  It returns nothing exactly if the
statement succeeds without a row.  A builder for all objects fails with the first thing that it
lacks, or selects from this table. -/
theorem find_of_run (driver : Driver σ) (g : Gateway σ) (id : Value) :
    (Terminal.find model (Registry.empty.followAll run) id).dialogue.run driver g
        = model.find driver (Registry.empty.followAll run) id g
      ∧ (∀ record, ∃ heard,
        model.find driver.recorded (Registry.empty.followAll run) id (g.watched record)
            = ((model.find driver (Registry.empty.followAll run) id g).1,
              (model.find driver (Registry.empty.followAll run) id g).2.watched heard)
          ∧ Dialogue.executed heard = Dialogue.executed record
            ++ ((Terminal.find model (Registry.empty.followAll run) id).dialogue.events driver
              g).filterMap Dialogue.Event.sent?)
      ∧ (∀ missing, model.firstMissing? (known run model.readable.type) = some missing ->
        model.find driver (Registry.empty.followAll run) id g
            = (.error (.precondition missing model.readable.type.name), g)
          ∧ (Terminal.find model (Registry.empty.followAll run) id).dialogue.events driver g = [])
      ∧ (model.firstMissing? (known run model.readable.type) = none ->
        ∃ manager key table m,
          model.target = some manager
            ∧ lastKey? (known run model.readable.type) = some key
            ∧ lastTable? (known run model.readable.type) = some table
            ∧ model.metadata? (Registry.empty.followAll run) = some m
            ∧ let statement :=
                findStatement table (columnOf (known run model.readable.type) key) id
              (Terminal.find model (Registry.empty.followAll run) id).dialogue.events driver g
                  = .asked manager :: Dialogue.sentOn statement
                    (g.acquire driver manager Manager.acquireFailure).1
                ∧ model.find driver (Registry.empty.followAll run) id g
                  = ((g.query driver manager statement.sql statement.params).1.bind (model.found m),
                    (g.query driver manager statement.sql statement.params).2)
                ∧ ((model.find driver (Registry.empty.followAll run) id g).1 = .ok none
                  ↔ ∃ result, (g.query driver manager statement.sql statement.params).1 = .ok result
                    ∧ result.rows = []))
      ∧ (∀ missing, model.firstMissingForQuery? (known run model.readable.type) = some missing ->
        model.query (Registry.empty.followAll run)
          = .error (.precondition missing model.readable.type.name))
      ∧ (model.firstMissingForQuery? (known run model.readable.type) = none ->
        ∃ table b, lastTable? (known run model.readable.type) = some table
          ∧ model.query (Registry.empty.followAll run) = .ok b
          ∧ b.build = .ok ⟨"SELECT * FROM " ++ table, []⟩) := by
  obtain ⟨refused, made⟩ := model.findBuilder_of_run run id
  have watched := Terminal.perform_watched (.find model (Registry.empty.followAll run) id) driver g
  refine ⟨Terminal.run_dialogue _ driver g, watched, fun missing lacks => ?_,
    fun complete => ?_, model.query_of_run run⟩
  · have fails := refused missing lacks
    rw [find, Terminal.dialogue, fails]
    exact ⟨rfl, rfl⟩
  · obtain ⟨manager, key, table, m, target, lastKey, lastTable, entry, built⟩ := made complete
    have written := Registry.not_blank_of_lastTable lastTable
    have one := Builder.buildOne_find written (columnOf (known run model.readable.type) key) id
    let statement := findStatement table (columnOf (known run model.readable.type) key) id
    have speaks : (Terminal.find model (Registry.empty.followAll run) id).dialogue
        = (Dialogue.query manager statement).mapOutcome (model.found m) := by
      rw [Terminal.dialogue, built]
      dsimp only
      rw [one, target]
      rfl
    have runs : model.find driver (Registry.empty.followAll run) id g
        = ((g.query driver manager statement.sql statement.params).1.bind (model.found m),
          (g.query driver manager statement.sql statement.params).2) := by
      have same := Terminal.run_dialogue (Terminal.find model (Registry.empty.followAll run) id)
        driver g
      rw [speaks, Dialogue.run_mapOutcome, Dialogue.run_query] at same
      exact same.symm
    refine ⟨manager, key, table, m, target, lastKey, lastTable, entry, ?_, runs, ?_⟩
    · rw [speaks, Dialogue.events_mapOutcome, Dialogue.events_query]
    · rw [runs]
      constructor
      · intro nothing
        obtain ⟨result, ran, found⟩ := exists_ok_of_bind nothing
        exact ⟨result, ran, (model.found_eq_none_iff m result).mp found⟩
      · rintro ⟨result, ran, empty⟩
        rw [ran]
        exact (model.found_eq_none_iff m result).mpr empty

/-- Airports, registered in an odd order after the registry was cleared. -/
def airportSteps : List RegistryStep :=
  let airport : ModelType := ⟨"Airport"⟩
  [.call ⟨airport, .table "fields"⟩, .clear,
    .call ⟨airport, .column ((ColumnMetadata.new "code" "char").column "iata")⟩,
    .call ⟨airport, .primaryKey "code"⟩, .call ⟨airport, .table " "⟩,
    .call ⟨⟨"Flight"⟩, .table "flights"⟩, .call ⟨airport, .table "airports"⟩]

/-- A model of airports that reads nothing of a row. -/
def airports : Model Unit :=
  { readable := { type := ⟨"Airport"⟩, read := fun _ => .ok () }, target := some 0 }

/-- A gateway whose pool can lend a connection to an empty database. -/
def emptyDatabase : Gateway Embedded.Engine :=
  { database := { location := .memory }
    managers := [{ config := .sqlite ":memory:", pool := { maxSize := 1, minSize := 0 } }] }

/-- The key is looked for in the column that it maps to, in the table named last. -/
theorem events_find_airports :
    ((Terminal.find airports (Registry.empty.followAll airportSteps)
        (.text "LAX")).dialogue.events Embedded.Engine.driver emptyDatabase)
      = [.asked 0,
        .sent 0 ⟨"SELECT * FROM airports WHERE iata = $1 LIMIT 1", [.text "LAX"]⟩] := by
  have complete : airports.firstMissing? (known airportSteps ⟨"Airport"⟩) = none := by
    decide +kernel
  obtain ⟨-, -, -, made, -⟩ := find_of_run airports airportSteps Embedded.Engine.driver emptyDatabase
    (.text "LAX")
  obtain ⟨manager, key, table, m, target, lastKey, lastTable, -, events, -⟩ := made complete
  have ofManager : manager = 0 := (Option.some.inj target).symm
  have ofKey : lastKey? (known airportSteps ⟨"Airport"⟩) = some "code" := by decide +kernel
  have ofTable : lastTable? (known airportSteps ⟨"Airport"⟩) = some "airports" := by decide +kernel
  have ofColumn : columnOf (known airportSteps ⟨"Airport"⟩) "code" = "iata" := by decide +kernel
  change lastKey? (known airportSteps ⟨"Airport"⟩) = some key at lastKey
  change lastTable? (known airportSteps ⟨"Airport"⟩) = some table at lastTable
  obtain rfl : "code" = key := Option.some.inj (ofKey.symm.trans lastKey)
  obtain rfl : "airports" = table := Option.some.inj (ofTable.symm.trans lastTable)
  subst ofManager
  rw [events]
  change [Dialogue.Event.asked 0, .sent 0 (findStatement "airports"
    (columnOf (known airportSteps ⟨"Airport"⟩) "code") (.text "LAX"))] = _
  rw [ofColumn]
  decide +kernel

end Model
end SqlGate
