import SqlGate.Gateway.Gateway
import SqlGate.Gateway.Recorder
import SqlGate.Proofs.Embedded.Connections
import SqlGate.Proofs.Embedded.Counter

namespace SqlGate
namespace Embedded

/-!
# What the row count of a statement counts

A statement that returns no rows reports the counter of its connection.  This
module follows the counters of an engine through any history: connections are
opened and closed, transactions begun and ended, and texts run on any of them.
Each connection has a counter of its own, also where they share a database, and
only statements that write rows set it.  Hence a statement without rows reports
the rows it wrote, if it counts them, and else hands on what an earlier one on
its connection has written.
-/

namespace Engine

/-! ## Histories of an engine -/

/-- What happens to an engine: a connection is opened, or a request is sent on one. -/
inductive Event where
  | opened
  | sent (c : ConnectionId) (request : Request)

def serve (engine : Engine) : Event -> Engine
  | .opened => engine.connect.2
  | .sent c (.execute sql values) => (execute c sql values engine).2
  | .sent c .begin => (begin c engine).2
  | .sent c .commit => (commit c engine).2
  | .sent c .rollback => (rollback c engine).2
  | .sent c .disconnect => disconnect c engine

/-- The workspace of a connection that is open. -/
def workspace? (engine : Engine) (c : ConnectionId) : Option Workspace :=
  (engine.connections.lookup c).map engine.workspace

/-- The statements of a text on a connection. -/
def works (engine : Engine) (c : ConnectionId) (sql : String) (values : List Value) : List Work :=
  match engine.workspace? c with
  | some w => w.works sql values
  | none => []

/-- The number of rows that a statement writes on a connection, if it counts them. -/
def writtenBy (engine : Engine) (c : ConnectionId) (work : Work) : Option Nat :=
  (engine.workspace? c).bind fun w => w.writtenBy work

/-- The numbers that an event counts on a connection. -/
def writtenAt (engine : Engine) (c : ConnectionId) : Event -> List Nat
  | .sent d (.execute sql values) =>
      match engine.workspace? c with
      | some w => if c = d then w.writtenIn (w.works sql values) else []
      | none => []
  | _ => []

/-- The numbers that a history counts on a connection. -/
def writtenAlong (c : ConnectionId) : Engine -> List Event -> List Nat
  | _, [] => []
  | engine, event :: rest => engine.writtenAt c event ++ writtenAlong c (engine.serve event) rest

/-- What the counter of a connection holds. -/
def counter? (engine : Engine) (c : ConnectionId) : Option Nat :=
  (engine.workspace? c).map fun w => w.session.written

section

variable {α : Type} {engine : Engine} {c d : ConnectionId} {connection : Connection} {w : Workspace}

theorem counter?_eq (engine : Engine) (c : ConnectionId) :
    engine.counter? c
      = (engine.connections.lookup c).map fun connection => connection.session.written := by
  rw [counter?, workspace?, Option.map_map]
  rfl

theorem counter?_store (engine : Engine) (c d : ConnectionId) (connection : Connection)
    (w : Workspace) :
    (engine.store c connection w).counter? d
      = if d = c then (engine.counter? d).map fun _ => w.session.written
        else engine.counter? d := by
  rw [counter?_eq, counter?_eq, lookup_store]
  split
  · rw [Option.map_map, Option.map_map]
    rfl
  · rfl

/-! ## One event -/

variable {action : Connection -> Workspace -> Except DriverFault α × Connection × Workspace}

/-- What happens on one connection leaves the counters of the others. -/
theorem counter?_within_of_ne (apart : d ≠ c) :
    (within c action engine).2.counter? d = engine.counter? d := by
  cases found : engine.connections.lookup c with
  | none => rw [within_of_closed found]
  | some connection => rw [within_of_open found, counter?_store, if_neg apart]

/-- What keeps the counter of its workspace keeps all counters. -/
theorem counter?_within_of_keeps
    (keeps : ∀ connection w, (action connection w).2.2.session.written = w.session.written) :
    (within c action engine).2.counter? d = engine.counter? d := by
  by_cases same : d = c
  · subst same
    cases found : engine.connections.lookup d with
    | none => rw [within_of_closed found]
    | some connection =>
        rw [within_of_open found, counter?_store, if_pos rfl, keeps, counter?_eq, found]
        rfl
  · exact counter?_within_of_ne same

theorem written_deepen {depth : Nat} {changed : Except Fault Workspace}
    (keeps : ∀ next, changed = .ok next -> next.session.written = w.session.written) :
    (deepen connection w depth changed).2.2.session.written = w.session.written := by
  unfold deepen
  split
  · exact keeps _ rfl
  · rfl

theorem counter?_begin (engine : Engine) (c d : ConnectionId) :
    (begin c engine).2.counter? d = engine.counter? d := by
  refine counter?_within_of_keeps ?_
  intro connection w
  refine written_deepen ?_
  intro next begun
  split at begun
  · exact Workspace.written_begin begun
  · cases begun
    exact w.written_savepoint _

theorem counter?_commit (engine : Engine) (c d : ConnectionId) :
    (commit c engine).2.counter? d = engine.counter? d := by
  refine counter?_within_of_keeps ?_
  intro connection w
  split
  · rfl
  · exact written_deepen fun next => Workspace.written_commit
  · exact written_deepen fun next => Workspace.written_release

theorem counter?_rollback (engine : Engine) (c d : ConnectionId) :
    (rollback c engine).2.counter? d = engine.counter? d := by
  refine counter?_within_of_keeps ?_
  intro connection w
  split
  · rfl
  · exact written_deepen fun next => Workspace.written_rollback
  · exact written_deepen fun next => Workspace.written_rollbackTo

theorem counter?_execute (engine : Engine) (c d : ConnectionId) (sql : String)
    (values : List Value) :
    (execute c sql values engine).2.counter? d
      = (engine.counter? d).map fun before =>
          (engine.writtenAt d (.sent c (.execute sql values))).getLast?.getD before := by
  by_cases same : d = c
  · subst same
    cases found : engine.connections.lookup d with
    | none =>
        have silent : engine.counter? d = none := by rw [counter?_eq, found]; rfl
        rw [execute, within_of_closed found, silent]
        rfl
    | some connection =>
        have there : engine.workspace? d = some (engine.workspace connection) := by
          rw [workspace?, found]
          rfl
        have held : engine.counter? d = some (engine.workspace connection).session.written := by
          rw [counter?, there]
          rfl
        rw [execute, within_of_open found, counter?_store, if_pos rfl, held, writtenAt, there]
        dsimp only
        rw [if_pos rfl, Workspace.runText, Workspace.runStatements_eq_foldl,
          Workspace.written_foldl_attempt]
        rfl
  · have uncounted : engine.writtenAt d (.sent c (.execute sql values)) = [] := by
      rw [writtenAt]
      cases engine.workspace? d with
      | none => rfl
      | some w => exact if_neg same
    rw [execute, counter?_within_of_ne same, uncounted]
    exact Option.map_id'.symm

/-- Connections are numbered upwards. -/
theorem next_le_serve (engine : Engine) (event : Event) :
    engine.next ≤ (engine.serve event).next := by
  match event with
  | .opened =>
      rw [serve, connect]
      split
      · exact Nat.le_refl _
      · exact Nat.le_succ _
  | .sent c (.execute sql values) => exact Nat.le_of_eq (next_within c _ engine).symm
  | .sent c .begin => exact Nat.le_of_eq (next_within c _ engine).symm
  | .sent c .commit => exact Nat.le_of_eq (next_within c _ engine).symm
  | .sent c .rollback => exact Nat.le_of_eq (next_within c _ engine).symm
  | .sent c .disconnect => exact Nat.le_refl _

/-- Opening a connection leaves the counters of those that are there. -/
theorem counter?_connect (older : d < engine.next) :
    engine.connect.2.counter? d = engine.counter? d := by
  rw [connect]
  split
  · rfl
  · rw [counter?_eq, counter?_eq, List.lookup_cons, beq_false_of_ne (Nat.ne_of_lt older)]

/-- A connection that is open after an event holds what the event counted last on it, or else what
it held before. -/
theorem counter?_serve (older : d < engine.next) (event : Event)
    (held : (engine.serve event).counter? d ≠ none) :
    (engine.serve event).counter? d
      = (engine.counter? d).map fun before => (engine.writtenAt d event).getLast?.getD before := by
  match event with
  | .opened => exact (counter?_connect older).trans Option.map_id'.symm
  | .sent c (.execute sql values) => exact counter?_execute engine c d sql values
  | .sent c .begin => exact (counter?_begin engine c d).trans Option.map_id'.symm
  | .sent c .commit => exact (counter?_commit engine c d).trans Option.map_id'.symm
  | .sent c .rollback => exact (counter?_rollback engine c d).trans Option.map_id'.symm
  | .sent c .disconnect =>
      have left : (engine.disconnect c).counter? d
          = if d = c then none else engine.counter? d := by
        rw [counter?_eq, counter?_eq, disconnect, lookup_remove]
        split <;> rfl
      rw [serve, left] at held ⊢
      by_cases same : d = c
      · exact absurd (if_pos same) held
      · rw [if_neg same]
        exact Option.map_id'.symm

/-- Without a connection there is no counter, and none comes to be for an older number. -/
theorem counter?_serve_of_none (older : d < engine.next) (event : Event)
    (closed : engine.counter? d = none) : (engine.serve event).counter? d = none := by
  by_contra held
  rw [counter?_serve older event held, closed] at held
  exact held rfl

/-! ## Whole histories -/

theorem counter?_history_of_none (older : d < engine.next) (history : List Event)
    (closed : engine.counter? d = none) : (history.foldl serve engine).counter? d = none := by
  induction history generalizing engine with
  | nil => exact closed
  | cons event rest ih =>
      exact ih (Nat.lt_of_lt_of_le older (engine.next_le_serve event))
        (counter?_serve_of_none older event closed)

/-- After a history, a connection that is still open holds what was counted last on it, or else
what it held before. -/
theorem counter?_history {before after : Nat} (older : d < engine.next) (history : List Event)
    (held : engine.counter? d = some before)
    (left : (history.foldl serve engine).counter? d = some after) :
    after = (writtenAlong d engine history).getLast?.getD before := by
  induction history generalizing engine before with
  | nil => exact (Option.some.inj (held.symm.trans left)).symm
  | cons event rest ih =>
      have younger := Nat.lt_of_lt_of_le older (engine.next_le_serve event)
      -- A connection that was closed underway would not be there at the end: its number is not
      -- given a second time.
      have still : (engine.serve event).counter? d ≠ none := by
        intro closed
        exact Option.some_ne_none after
          (left.symm.trans (counter?_history_of_none younger rest closed))
      have here := counter?_serve older event still
      rw [held, Option.map_some] at here
      rw [ih younger here left, writtenAlong, List.getLast?_append]
      cases (writtenAlong d (engine.serve event) rest).getLast? <;> rfl

/-! ## What is reported -/

/-- A text of one statement is answered with the rows that it counts, or else with what the counter
held. -/
theorem affected_of_single {sql : String} {values : List Value} {work : Work} {answer : Answer}
    {before : Nat} (held : engine.counter? c = some before)
    (single : engine.works c sql values = [work])
    (ran : (execute c sql values engine).1 = .ok answer) :
    answer.affected = (engine.writtenBy c work).getD before := by
  obtain ⟨w, there, rfl⟩ := Option.map_eq_some_iff.mp held
  obtain ⟨connection, found, rfl⟩ := Option.map_eq_some_iff.mp there
  rw [works, there] at single
  rw [execute, within, found] at ran
  obtain ⟨result, text, rfl⟩ := exists_ok_of_map ran
  have counted := Workspace.affected_of_single single text
  rw [Nat.zero_add, Workspace.written_attempt] at counted
  rw [writtenBy, there]
  exact counted

/-- A connection that was just opened has counted nothing. -/
theorem counter?_of_opened (opened : engine.connect.1 = .ok c) :
    engine.connect.2.counter? c = some 0 ∧ c < engine.connect.2.next := by
  unfold connect at opened ⊢
  split at opened
  · cases opened
  · rename_i reachable
    cases opened
    rw [if_neg reachable, counter?_eq, List.lookup_cons, beq_self_eq_true]
    exact ⟨rfl, Nat.lt_succ_self _⟩

theorem exists_counter_of_works {sql : String} {values : List Value} {work : Work}
    (single : engine.works c sql values = [work]) : ∃ before, engine.counter? c = some before := by
  cases there : engine.workspace? c with
  | none =>
      rw [works, there] at single
      cases single
  | some w => exact ⟨w.session.written, by rw [counter?, there]; rfl⟩

theorem writtenBy_of_reads {work : Work} (reads : work.1.writesRows = false) :
    engine.writtenBy c work = none := by
  refine Option.bind_eq_none_iff.mpr ?_
  intro w there
  exact w.writtenBy_of_reads reads

theorem rowCount_of_runOn {sql : String} {values : List Value} {result : QueryResult}
    (ran : (Gateway.runOn driver sql values c engine).1 = .ok result) (empty : result.rows = []) :
    ∃ answer, (execute c sql values engine).1 = .ok answer ∧ result.rowCount = answer.affected := by
  rw [Gateway.runOn] at ran
  rcases reported : driver.execute c sql values engine with ⟨fault | answer, reached⟩
  · rw [reported] at ran
    cases ran
  · rw [reported] at ran
    cases ran
    have none : answer.rows = [] := empty
    refine ⟨answer, congrArg Prod.fst reported, ?_⟩
    rw [Answer.toResult, none]
    rfl

/-- The row count of a single statement without rows, after any history of the engine since its
connection was opened: the number of rows that it wrote itself, if it is one that counts them, and
else the last number that was counted on the connection.  So it is the number of rows that the
statement wrote exactly if the statement counts them or nothing was counted last. -/
theorem rowCount_of_history {engine : Engine} {c : ConnectionId} {history : List Event}
    {sql : String} {values : List Value} {work : Work} {result : QueryResult}
    (opened : engine.connect.1 = .ok c)
    (single : (history.foldl serve engine.connect.2).works c sql values = [work])
    (ran : (Gateway.runOn driver sql values c (history.foldl serve engine.connect.2)).1
      = .ok result)
    (empty : result.rows = []) :
    result.rowCount = ((history.foldl serve engine.connect.2).writtenBy c work).getD
        ((writtenAlong c engine.connect.2 history).getLast?.getD 0)
    ∧ (work.1.writesRows = false ->
        result.rowCount = (writtenAlong c engine.connect.2 history).getLast?.getD 0)
    ∧ (result.rowCount = ((history.foldl serve engine.connect.2).writtenBy c work).getD 0 ↔
        ((history.foldl serve engine.connect.2).writtenBy c work).isSome = true
          ∨ (writtenAlong c engine.connect.2 history).getLast?.getD 0 = 0) := by
  obtain ⟨starts, older⟩ := counter?_of_opened opened
  obtain ⟨before, held⟩ := exists_counter_of_works single
  obtain ⟨answer, executed, reported⟩ := rowCount_of_runOn ran empty
  have counted : result.rowCount
      = ((history.foldl serve engine.connect.2).writtenBy c work).getD
          ((writtenAlong c engine.connect.2 history).getLast?.getD 0) := by
    rw [reported, affected_of_single held single executed,
      counter?_history older history starts held]
  refine ⟨counted, ?_, ?_⟩
  · intro reads
    rw [counted, writtenBy_of_reads reads, Option.getD_none]
  · rw [counted]
    cases (history.foldl serve engine.connect.2).writtenBy c work <;> simp

def inMemory : Engine := { location := .memory }

/-- On its first connection a table is made and filled with two rows. -/
def twoRows : List Event :=
  [.sent 0 (.execute "CREATE TABLE t (id INTEGER)" []),
    .sent 0 (.execute "INSERT INTO t (id) VALUES (1), (2)" [])]

/-- A selection that finds no row of the table. -/
def emptySelection : String :=
  "SELECT id FROM t WHERE id = 9"

theorem exists_emptySelection :
    ∃ work result,
      (twoRows.foldl serve inMemory.connect.2).works 0 emptySelection [] = [work]
      ∧ work.1.writesRows = false
      ∧ (Gateway.runOn driver emptySelection [] 0 (twoRows.foldl serve inMemory.connect.2)).1
          = .ok result
      ∧ result.rows = [] := by
  have kinds : ((twoRows.foldl serve inMemory.connect.2).works 0 emptySelection []).map
      (fun work => work.1.writesRows) = [false] := by decide +kernel
  have shown : (Gateway.runOn driver emptySelection [] 0
      (twoRows.foldl serve inMemory.connect.2)).1.toOption.map QueryResult.isEmpty = some true := by
    decide +kernel
  obtain ⟨work, single, reads⟩ := List.map_eq_singleton_iff.mp kinds
  obtain ⟨result, found, none⟩ := Option.map_eq_some_iff.mp shown
  exact ⟨work, result, single, reads, eq_ok_of_toOption found, List.isEmpty_iff.mp none⟩

/-- The selection reports the two rows of the insertion before it. -/
theorem rowCount_of_emptySelection :
    ∃ result, (Gateway.runOn driver emptySelection [] 0
        (twoRows.foldl serve inMemory.connect.2)).1 = .ok result
      ∧ result.rows = [] ∧ result.rowCount = 2 := by
  obtain ⟨work, result, single, reads, ran, empty⟩ := exists_emptySelection
  have counts : (writtenAlong 0 inMemory.connect.2 twoRows).getLast?.getD 0 = 2 := by
    decide +kernel
  have reported := (rowCount_of_history (by decide) single ran empty).2.1 reads
  exact ⟨result, ran, empty, reported.trans counts⟩

/-- It is not so that the row count of a single statement without rows is always the number of rows
that the statement itself wrote. -/
theorem not_forall_rowCount_eq_writtenBy :
    ¬ ∀ (engine : Engine) (c : ConnectionId) (history : List Event) (sql : String)
        (values : List Value) (work : Work) (result : QueryResult),
      engine.connect.1 = .ok c ->
      (history.foldl serve engine.connect.2).works c sql values = [work] ->
      (Gateway.runOn driver sql values c (history.foldl serve engine.connect.2)).1 = .ok result ->
      result.rows = [] ->
      result.rowCount = ((history.foldl serve engine.connect.2).writtenBy c work).getD 0 := by
  intro claimed
  obtain ⟨work, result, single, reads, ran, empty⟩ := exists_emptySelection
  have ownCount := claimed inMemory 0 twoRows _ _ work result (by decide) single ran empty
  rw [writtenBy_of_reads reads, Option.getD_none] at ownCount
  have shown : (Gateway.runOn driver emptySelection [] 0
      (twoRows.foldl serve inMemory.connect.2)).1.toOption.map QueryResult.rowCount = some 2 := by
    decide +kernel
  rw [ran] at shown
  have reported : result.rowCount = 2 := Option.some.inj shown
  omega

end

end Engine
end Embedded
end SqlGate
