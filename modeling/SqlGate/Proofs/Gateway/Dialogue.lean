import SqlGate.Proofs.Gateway.Traffic
import SqlGate.Query.Template

namespace SqlGate

/-!
# What an operation says to pools and connections

A gateway shows how an operation leaves pools and database, not which way it took
to get there: a pool that lends an idle connection and takes it back looks as if it
had not been asked.  So the way is written down as a value of its own, a dialogue.
It asks pools for connections, sends statements on them and gives them back, and
goes on with every answer that may come.  Running a dialogue on a gateway does
nothing but this, and tells what was asked and what was sent.

The dialogue of a single statement runs as the statement itself does, so nothing is
lost by speaking of dialogues; and what it sends is what a recorded driver hears.
-/

/-- What an operation asks and sends, and how it goes on with the answers. -/
inductive Dialogue (α : Type) where
  | done (outcome : Outcome α)
  /-- The pool of a manager is asked for a connection. -/
  | ask (m : ManagerId) (next : Outcome ConnectionId -> Dialogue α)
  /-- A statement is sent on a connection. -/
  | send (c : ConnectionId) (statement : Statement) (next : Outcome QueryResult -> Dialogue α)
  /-- A connection is given back to the pool of a manager. -/
  | giveBack (m : ManagerId) (c : ConnectionId) (next : Dialogue α)

namespace Dialogue

/-- What is told of a dialogue that was run. -/
inductive Event where
  | asked (m : ManagerId)
  | sent (c : ConnectionId) (statement : Statement)
deriving DecidableEq

def Event.isAsk : Event -> Bool
  | .asked _ => true
  | .sent _ _ => false

def Event.sent? : Event -> Option (ConnectionId × Statement)
  | .asked _ => none
  | .sent c statement => some (c, statement)

variable {α β σ : Type}

def run (driver : Driver σ) : Dialogue α -> Gateway σ -> Outcome α × Gateway σ
  | .done outcome, g => (outcome, g)
  | .ask m next, g =>
      let asked := g.acquire driver m Manager.acquireFailure
      (next asked.1).run driver asked.2
  | .send c statement next, g =>
      let ran := Gateway.runOn driver statement.sql statement.params c g.database
      (next ran.1).run driver (g.withDatabase ran.2)
  | .giveBack m c next, g => next.run driver (g.giveBack driver m c)

/-- What is asked and sent on the way, in order. -/
def events (driver : Driver σ) : Dialogue α -> Gateway σ -> List Event
  | .done _, _ => []
  | .ask m next, g =>
      let asked := g.acquire driver m Manager.acquireFailure
      .asked m :: (next asked.1).events driver asked.2
  | .send c statement next, g =>
      let ran := Gateway.runOn driver statement.sql statement.params c g.database
      .sent c statement :: (next ran.1).events driver (g.withDatabase ran.2)
  | .giveBack m c next, g => next.events driver (g.giveBack driver m c)

/-- Change what a dialogue ends with. -/
def mapOutcome (f : α -> Outcome β) : Dialogue α -> Dialogue β
  | .done outcome => .done (outcome.bind f)
  | .ask m next => .ask m fun asked => (next asked).mapOutcome f
  | .send c statement next => .send c statement fun result => (next result).mapOutcome f
  | .giveBack m c next => .giveBack m c (next.mapOutcome f)

theorem run_mapOutcome (driver : Driver σ) (f : α -> Outcome β) (d : Dialogue α) (g : Gateway σ) :
    (d.mapOutcome f).run driver g
      = (((d.run driver g).1.bind f), (d.run driver g).2) := by
  induction d generalizing g with
  | done outcome => rfl
  | ask m next ih => exact ih _ _
  | send c statement next ih => exact ih _ _
  | giveBack m c next ih => exact ih _

theorem events_mapOutcome (driver : Driver σ) (f : α -> Outcome β) (d : Dialogue α)
    (g : Gateway σ) : (d.mapOutcome f).events driver g = d.events driver g := by
  induction d generalizing g with
  | done outcome => rfl
  | ask m next ih => exact congrArg (Event.asked m :: ·) (ih _ _)
  | send c statement next ih => exact congrArg (Event.sent c statement :: ·) (ih _ _)
  | giveBack m c next ih => exact ih _

/-! ## One statement -/

/-- One statement on a connection of the pool. -/
def query (m : ManagerId) (statement : Statement) : Dialogue QueryResult :=
  .ask m fun
    | .error failure => .done (.error failure)
    | .ok c => .send c statement fun result => .giveBack m c (.done result)

theorem run_query (driver : Driver σ) (m : ManagerId) (statement : Statement) (g : Gateway σ) :
    (query m statement).run driver g = g.query driver m statement.sql statement.params := by
  unfold query Gateway.query Gateway.lend run
  rcases g.acquire driver m Manager.acquireFailure with ⟨failure | c, lent⟩
  · rfl
  · rfl

/-- A statement is sent on the connection that was lent, if one was. -/
def sentOn (statement : Statement) : Outcome ConnectionId -> List Event
  | .ok c => [.sent c statement]
  | .error _ => []

/-- The pool is asked once, and the statement is sent once if the pool lends a connection. -/
theorem events_query (driver : Driver σ) (m : ManagerId) (statement : Statement) (g : Gateway σ) :
    (query m statement).events driver g
      = .asked m :: sentOn statement (g.acquire driver m Manager.acquireFailure).1 := by
  unfold query events
  rcases g.acquire driver m Manager.acquireFailure with ⟨failure | c, lent⟩
  · rfl
  · rfl

/-! ## What a recorded driver hears -/

/-- The statement that a request carries. -/
def executed? (sent : Sent) : Option (ConnectionId × Statement) :=
  match sent.request with
  | .execute sql params => some (sent.connection, ⟨sql, params⟩)
  | _ => none

/-- The statements of a record, with their connections. -/
def executed (record : List Sent) : List (ConnectionId × Statement) :=
  record.filterMap executed?

theorem executed_append (front behind : List Sent) :
    executed (front ++ behind) = executed front ++ executed behind :=
  List.filterMap_append

end Dialogue

/-! ## Watching a gateway -/

theorem Pool.acquire_recorded {σ : Type} (driver : Driver σ) (pool : Pool) (s : σ)
    (record : List Sent) :
    pool.acquire driver.recorded (s, record)
      = ((pool.acquire driver s).1, (pool.acquire driver s).2.1,
        ((pool.acquire driver s).2.2, record)) := by
  unfold acquire
  by_cases closed : pool.isClosed = true
  · rw [if_pos closed, if_pos closed]
  · rw [if_neg closed, if_neg closed]
    cases pool.idle with
    | cons c rest => rfl
    | nil =>
        dsimp only [Driver.recorded]
        split
        · rcases driver.connect s with ⟨fault | c, after⟩
          · rfl
          · rfl
        · rfl

namespace Gateway

variable {σ : Type} (driver : Driver σ) (g : Gateway σ) (record : List Sent)

/-- The gateway with a record beside its database. -/
def watched : Gateway (σ × List Sent) :=
  { database := (g.database, record)
    managers := g.managers
    handles := g.handles
    nextHandle := g.nextHandle }

theorem acquire_watched (m : ManagerId) (toFailure : Manager -> DriverFault -> Failure) :
    (g.watched record).acquire driver.recorded m toFailure
      = ((g.acquire driver m toFailure).1, (g.acquire driver m toFailure).2.watched record) := by
  cases known : g.manager? m with
  | none =>
      rw [acquire_of_unknown driver m g known,
        acquire_of_unknown driver.recorded m (g.watched record) known]
  | some manager =>
      rw [acquire_eq driver m g known, acquire_eq driver.recorded m (g.watched record) known]
      have lent := manager.pool.acquire_recorded driver g.database record
      change (manager.pool.acquire driver.recorded (g.watched record).database) = _ at lent
      rw [lent]
      rfl

/-- What is heard when a connection is given back is no statement. -/
theorem giveBack_watched (m : ManagerId) (c : ConnectionId) :
    ∃ heard, (g.watched record).giveBack driver.recorded m c = (g.giveBack driver m c).watched heard
      ∧ Dialogue.executed heard = Dialogue.executed record := by
  cases known : g.manager? m with
  | none =>
      rw [giveBack_of_unknown driver m g known,
        giveBack_of_unknown driver.recorded m (g.watched record) known]
      exact ⟨record, rfl, rfl⟩
  | some manager =>
      rw [giveBack_eq driver m g known, giveBack_eq driver.recorded m (g.watched record) known]
      unfold Pool.giveBack
      by_cases closed : manager.pool.isClosed = true
      · simp only [closed, if_true]
        -- A closed pool disconnects.
        refine ⟨record ++ [⟨c, .disconnect⟩], rfl, ?_⟩
        rw [Dialogue.executed_append]
        exact List.append_nil _
      · simp only [closed]
        exact ⟨record, rfl, rfl⟩

theorem runOn_recorded (sql : String) (params : List Value) (c : ConnectionId) :
    runOn driver.recorded sql params c (g.watched record).database
      = ((runOn driver sql params c g.database).1, (runOn driver sql params c g.database).2,
        record ++ [⟨c, .execute sql params⟩]) := by
  unfold runOn
  dsimp only [Driver.recorded, Driver.noting, watched]
  rcases driver.execute c sql params g.database with ⟨fault | answer, after⟩
  · rfl
  · rfl

end Gateway

namespace Dialogue

variable {α σ : Type}

/-- On a gateway that is watched, a dialogue does what it does on the gateway itself, and the
statements heard are those that it sends, on their connections and in order. -/
theorem run_watched (driver : Driver σ) (d : Dialogue α) (g : Gateway σ) (record : List Sent) :
    ∃ heard, d.run driver.recorded (g.watched record)
        = ((d.run driver g).1, (d.run driver g).2.watched heard)
      ∧ executed heard = executed record ++ (d.events driver g).filterMap Event.sent? := by
  induction d generalizing g record with
  | done outcome => exact ⟨record, rfl, (List.append_nil _).symm⟩
  | ask m next ih =>
      rw [run, run, events, Gateway.acquire_watched]
      exact ih _ _ _
  | send c statement next ih =>
      rw [run, run, events, Gateway.runOn_recorded]
      rcases ih _ (g.withDatabase (Gateway.runOn driver statement.sql statement.params c
        g.database).2) (record ++ [⟨c, .execute statement.sql statement.params⟩])
        with ⟨heard, runs, same⟩
      refine ⟨heard, runs, same.trans ?_⟩
      rw [executed_append, List.append_assoc]
      rfl
  | giveBack m c next ih =>
      rcases g.giveBack_watched driver record m c with ⟨silent, given, unchanged⟩
      rcases ih (g.giveBack driver m c) silent with ⟨heard, runs, same⟩
      rw [run, run, events, given]
      exact ⟨heard, runs, unchanged ▸ same⟩

end Dialogue
end SqlGate
