import SqlGate.Embedded.Engine
import SqlGate.Model.Facade
import SqlGate.Proofs.Gateway.Dialogue
import SqlGate.Proofs.Success

namespace SqlGate

/-!
# Where terminals fail

A terminal is a call that may run one statement.  Every terminal either fails before
it asks for anything, or it speaks the dialogue of one statement and looks at the
result.  Failures of the first kind are configuration, precondition and compile
failures; those of the second kind come from the pool, from the driver or from what
is made of the result, and none of them is taken for one of the first kind.  So the
failure alone tells whether a pool was asked.
-/

/-- A call that may run one statement, by the type of what it returns. -/
inductive Terminal (α : Type) : Type -> Type where
  | execute (target : Option ManagerId) (b : Builder) : Terminal α QueryResult
  | getMany (target : Option ManagerId) (b : Builder) : Terminal α (List Row)
  | getOne (target : Option ManagerId) (b : Builder) : Terminal α (Option Row)
  | count (target : Option ManagerId) (b : Builder) : Terminal α Int
  | find (model : Model α) (registry : Registry) (id : Value) : Terminal α (Option α)

/-- The dialogue of a builder that runs its statement on a manager, if there is one. -/
def Builder.dialogue (target : Option ManagerId) (b : Builder)
    (built : Except CompileFault Statement) : Dialogue QueryResult :=
  match built with
  | .error fault => .done (.error fault.toFailure)
  | .ok statement =>
      match target with
      | none => .done (.error b.noConnection)
      | some m => .query m statement

/-- What a model makes of the rows that were found for a key. -/
def Model.found {α : Type} (model : Model α) (m : ModelMetadata) (result : QueryResult) :
    Outcome (Option α) :=
  match result.first? with
  | none => .ok none
  | some row => (hydrate model.readable m row).map some

namespace Terminal

variable {α β σ : Type}

def perform (driver : Driver σ) (g : Gateway σ) : Terminal α β -> Outcome β × Gateway σ
  | .execute target b => b.execute driver target g
  | .getMany target b => b.getMany driver target g
  | .getOne target b => b.getOne driver target g
  | .count target b => b.count driver target g
  | .find model registry id => model.find driver registry id g

/-- What a terminal says to pools and connections. -/
def dialogue : Terminal α β -> Dialogue β
  | .execute target b => (b.dialogue target b.build).mapOutcome .ok
  | .getMany target b => (b.dialogue target b.build).mapOutcome fun result => .ok result.rows
  | .getOne target b => (b.dialogue target b.buildOne).mapOutcome fun result => .ok result.first?
  | .count target b => (b.dialogue target b.buildCount).mapOutcome Builder.countIn
  | .find model registry id =>
      match model.findBuilder registry id with
      | .error failure => .done (.error failure)
      | .ok (m, b) => (b.dialogue model.target b.buildOne).mapOutcome (model.found m)

/-! ## Terminals are their dialogues -/

theorem run_dialogue_builder (driver : Driver σ) (target : Option ManagerId) (b : Builder)
    (built : Except CompileFault Statement) (g : Gateway σ) :
    (b.dialogue target built).run driver g = b.runBuilt driver target built g := by
  cases built with
  | error fault => rfl
  | ok statement =>
      cases target with
      | none => rfl
      | some m => exact Dialogue.run_query driver m statement g

theorem find_eq_getOne {model : Model α} {registry : Registry} {id : Value} {m : ModelMetadata}
    {b : Builder} (built : model.findBuilder registry id = .ok (m, b)) (driver : Driver σ)
    (g : Gateway σ) :
    model.find driver registry id g
      = Builder.mapOutcome (model.found m) (b.runBuilt driver model.target b.buildOne g) := by
  unfold Model.find Builder.getOne Builder.mapOutcome
  rw [built]
  dsimp only
  rcases b.runBuilt driver model.target b.buildOne g with ⟨failure | result, after⟩
  · rfl
  · unfold Model.found Except.bind
    dsimp only
    cases result.first? with
    | none => rfl
    | some row => rfl

/-- A terminal does what its dialogue does. -/
theorem run_dialogue (t : Terminal α β) (driver : Driver σ) (g : Gateway σ) :
    t.dialogue.run driver g = t.perform driver g := by
  cases t with
  | execute target b =>
      rw [dialogue, Dialogue.run_mapOutcome, run_dialogue_builder]
      change ((b.execute driver target g).1.bind .ok, (b.execute driver target g).2) = _
      rw [perform]
      rcases b.execute driver target g with ⟨failure | result, after⟩
      · rfl
      · rfl
  | getMany target b =>
      rw [dialogue, Dialogue.run_mapOutcome, run_dialogue_builder]
      rfl
  | getOne target b =>
      rw [dialogue, Dialogue.run_mapOutcome, run_dialogue_builder]
      rfl
  | count target b =>
      rw [dialogue, Dialogue.run_mapOutcome, run_dialogue_builder]
      rfl
  | find model registry id =>
      rw [dialogue, perform]
      cases built : model.findBuilder registry id with
      | error failure =>
          rw [Model.find, built]
          rfl
      | ok found =>
          obtain ⟨m, b⟩ := found
          rw [find_eq_getOne built]
          dsimp only
          rw [Dialogue.run_mapOutcome, run_dialogue_builder]
          rfl

/-- On a gateway that is watched, a terminal does what it does on the gateway itself, and the
statements heard are those of its dialogue. -/
theorem perform_watched (t : Terminal α β) (driver : Driver σ) (g : Gateway σ)
    (record : List Sent) :
    ∃ heard, t.perform driver.recorded (g.watched record)
        = ((t.perform driver g).1, (t.perform driver g).2.watched heard)
      ∧ Dialogue.executed heard
        = Dialogue.executed record ++ (t.dialogue.events driver g).filterMap Dialogue.Event.sent? := by
  rw [← t.run_dialogue driver g, ← t.run_dialogue driver.recorded (g.watched record)]
  exact t.dialogue.run_watched driver g record

/-! ## Failures -/

/-- What is made of a result fails in no way that is taken for a failure before it. -/
def LooksLater (f : QueryResult -> Outcome β) : Prop :=
  ∀ result failure, f result = .error failure -> failure.isPrecondition = false

theorem looksLater_ok (f : QueryResult -> β) : LooksLater fun result => .ok (f result) :=
  fun _ _ fails => nomatch fails

theorem isPrecondition_countOf {found : Option Json} {failure : Failure}
    (fails : Builder.countOf found = .error failure) : failure.isPrecondition = false := by
  unfold Builder.countOf at fails
  split at fails
  · split at fails
    · cases fails
    · cases fails; rfl
  · split at fails
    · cases fails
    · cases fails; rfl
  · cases fails; rfl

theorem looksLater_countIn : LooksLater Builder.countIn := by
  intro result failure fails
  unfold Builder.countIn at fails
  split at fails
  · cases fails
  · exact isPrecondition_countOf fails

theorem looksLater_found (model : Model α) (m : ModelMetadata) : LooksLater (model.found m) := by
  intro result failure fails
  unfold Model.found at fails
  cases first : result.first? with
  | none => rw [first] at fails; cases fails
  | some row =>
      rw [first] at fails
      unfold hydrate at fails
      dsimp only at fails
      cases read : model.readable.read (renameColumns m row) with
      | ok a => rw [read] at fails; cases fails
      | error fault => rw [read] at fails; cases fails; rfl

/-- A model lacks something before anything is asked. -/
theorem isPrecondition_findBuilder {model : Model α} {registry : Registry} {id : Value}
    {failure : Failure} (fails : model.findBuilder registry id = .error failure) :
    failure.isPrecondition = true := by
  unfold Model.findBuilder at fails
  split at fails
  · cases fails; rfl
  · split at fails
    · cases fails; rfl
    · split at fails
      · cases fails; rfl
      · split at fails
        · cases fails; rfl
        · cases fails

/-- A builder fails at once, or it speaks the dialogue of one statement. -/
theorem dialogue_builder_cases (target : Option ManagerId) (b : Builder)
    (built : Except CompileFault Statement) {f : QueryResult -> Outcome β} (later : LooksLater f) :
    (∃ failure, (b.dialogue target built).mapOutcome f = .done (.error failure)
        ∧ failure.isPrecondition = true)
      ∨ ∃ m statement, ∃ look : QueryResult -> Outcome β, LooksLater look
        ∧ (b.dialogue target built).mapOutcome f
          = (Dialogue.query m statement).mapOutcome look := by
  cases built with
  | error fault => exact .inl ⟨_, rfl, rfl⟩
  | ok statement =>
      cases target with
      | none => exact .inl ⟨_, rfl, rfl⟩
      | some m => exact .inr ⟨m, statement, f, later, rfl⟩

/-- A terminal fails at once, or it speaks the dialogue of one statement. -/
theorem dialogue_cases (t : Terminal α β) :
    (∃ failure, t.dialogue = .done (.error failure) ∧ failure.isPrecondition = true)
      ∨ ∃ m statement, ∃ look : QueryResult -> Outcome β, LooksLater look
        ∧ t.dialogue = (Dialogue.query m statement).mapOutcome look := by
  cases t with
  | execute target b => exact dialogue_builder_cases target b _ (looksLater_ok id)
  | getMany target b => exact dialogue_builder_cases target b _ (looksLater_ok QueryResult.rows)
  | getOne target b => exact dialogue_builder_cases target b _ (looksLater_ok QueryResult.first?)
  | count target b => exact dialogue_builder_cases target b _ looksLater_countIn
  | find model registry id =>
      rw [dialogue]
      cases built : model.findBuilder registry id with
      | error failure => exact .inl ⟨failure, rfl, isPrecondition_findBuilder built⟩
      | ok found =>
          obtain ⟨m, b⟩ := found
          exact dialogue_builder_cases model.target b _ (looksLater_found model m)

theorem isPrecondition_acquireFailure (manager : Manager) (fault : DriverFault) :
    (manager.acquireFailure fault).isPrecondition = false := by
  have plain := fault.not_isPrecondition_toFailure
  unfold Manager.acquireFailure
  split
  · rfl
  · exact plain

/-- Neither a pool nor a driver reports a failure that is taken for one before them. -/
theorem isPrecondition_query {driver : Driver σ} {m : ManagerId} {sql : String}
    {params : List Value} {g : Gateway σ} {failure : Failure}
    (fails : (g.query driver m sql params).1 = .error failure) :
    failure.isPrecondition = false := by
  unfold Gateway.query Gateway.lend at fails
  cases known : g.manager? m with
  | none =>
      rw [Gateway.acquire_of_unknown driver m g known] at fails
      cases fails
      rfl
  | some manager =>
      rw [Gateway.acquire_eq driver m g known] at fails
      cases lent : (manager.pool.acquire driver g.database).1 with
      | error fault =>
          rw [lent] at fails
          cases fails
          exact isPrecondition_acquireFailure manager fault
      | ok c =>
          rw [lent] at fails
          simp only [Except.mapError, Gateway.runOn] at fails
          split at fails
          · cases fails
          · cases fails
            exact DriverFault.not_isPrecondition_toFailure _

/-- A terminal asks for a connection at most once and sends at most one statement, which is all that
its driver hears.  When it fails, its failure is a precondition in the wide sense if and only if
nothing was asked. -/
theorem isPrecondition_iff_not_asked (t : Terminal α β) (driver : Driver σ) (g : Gateway σ) :
    t.dialogue.run driver g = t.perform driver g
      ∧ (∀ record, ∃ heard,
        t.perform driver.recorded (g.watched record)
            = ((t.perform driver g).1, (t.perform driver g).2.watched heard)
          ∧ Dialogue.executed heard = Dialogue.executed record
            ++ (t.dialogue.events driver g).filterMap Dialogue.Event.sent?)
      ∧ (t.dialogue.events driver g).countP Dialogue.Event.isAsk ≤ 1
      ∧ ((t.dialogue.events driver g).filterMap Dialogue.Event.sent?).length ≤ 1
      ∧ ∀ failure, (t.perform driver g).1 = .error failure ->
        (failure.isPrecondition = true
          ↔ (t.dialogue.events driver g).countP Dialogue.Event.isAsk = 0) := by
  refine ⟨t.run_dialogue driver g, t.perform_watched driver g, ?_⟩
  rw [← t.run_dialogue driver g]
  rcases t.dialogue_cases with ⟨failure, early, precondition⟩ | ⟨m, statement, look, later, speaks⟩
  · rw [early]
    refine ⟨Nat.zero_le _, Nat.zero_le _, fun other fails => ?_⟩
    cases fails
    exact iff_of_true precondition rfl
  · rw [speaks, Dialogue.events_mapOutcome, Dialogue.events_query, Dialogue.run_mapOutcome,
      Dialogue.run_query]
    have notBefore : ∀ failure, ((g.query driver m statement.sql statement.params).1.bind look)
        = .error failure -> failure.isPrecondition = false := by
      intro failure fails
      cases ran : (g.query driver m statement.sql statement.params).1 with
      | error fault =>
          rw [ran] at fails
          cases fails
          exact isPrecondition_query ran
      | ok result =>
          rw [ran] at fails
          exact later result failure fails
    cases (g.acquire driver m Manager.acquireFailure).1 with
    | error fault =>
        exact ⟨Nat.le_refl 1, Nat.zero_le 1, fun failure fails =>
          iff_of_false (by rw [notBefore failure fails]; decide) (by simp [Dialogue.Event.isAsk])⟩
    | ok c =>
        exact ⟨Nat.le_refl 1, Nat.le_refl 1, fun failure fails =>
          iff_of_false (by rw [notBefore failure fails]; decide) (by simp [Dialogue.Event.isAsk])⟩

/-- A gateway whose database cannot be reached. -/
def unreachable : Gateway Embedded.Engine :=
  { database := { location := .unreachable }
    managers := [{ config := .sqlite "/gone/flights.db", pool := { maxSize := 1, minSize := 0 } }] }

def allFlights : Terminal Unit (List Row) :=
  .getMany (some 0) (Builder.new "flights").select

/-- That the database cannot be reached is found out by asking, and the failure says so. -/
theorem isPrecondition_of_unreachable :
    ∃ failure, (allFlights.perform Embedded.Engine.driver unreachable).1 = .error failure
      ∧ failure.isPrecondition = false := by
  have asked : (allFlights.dialogue.events Embedded.Engine.driver unreachable).countP
      Dialogue.Event.isAsk = 1 := by decide +kernel
  have fails : (allFlights.perform Embedded.Engine.driver unreachable).1.toOption.isNone
      = true := by decide +kernel
  cases ended : (allFlights.perform Embedded.Engine.driver unreachable).1 with
  | ok rows =>
      rw [ended] at fails
      cases fails
  | error failure =>
      have told := (isPrecondition_iff_not_asked allFlights Embedded.Engine.driver
        unreachable).2.2.2.2 failure ended
      refine ⟨failure, rfl, Bool.eq_false_iff.mpr fun early => ?_⟩
      have silent := told.mp early
      omega

end Terminal
end SqlGate
