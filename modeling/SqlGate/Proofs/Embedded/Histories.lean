import SqlGate.Proofs.Embedded.RowCount
import SqlGate.Proofs.Embedded.Upkeep

namespace SqlGate
namespace Embedded

/-!
# What holds of the databases of an engine

A transaction and each of its savepoints hold a database of their own that may
come back, and every connection to memory has one too.  Statements about
transactions only hand on databases that are held already, so a property that
the effects of statements keep is one of every database that a connection can
see, after any history.
-/

/-! ## Databases that are held -/

/-- What holds of every database that a transaction can go back to or keep. -/
def Standing.All (P : Database -> Prop) : Standing -> Prop
  | .autocommit => True
  | .transaction seen savepoints =>
      (∀ db ∈ seen, P db) ∧ ∀ point ∈ savepoints, ∀ db ∈ point.state, P db

/-- What holds of every database of a workspace. -/
def Workspace.All (P : Database -> Prop) (w : Workspace) : Prop :=
  P w.kept ∧ w.session.standing.All P

/-- What holds of every database of an engine. -/
def Engine.All (P : Database -> Prop) (engine : Engine) : Prop :=
  P engine.shared
    ∧ ∀ entry ∈ engine.connections, P entry.2.own ∧ entry.2.session.standing.All P

variable {P : Database -> Prop}

namespace Workspace

variable {w next : Workspace}

theorem All.seen (all : w.All P) : P w.seen := by
  obtain ⟨kept, held⟩ := all
  unfold Workspace.seen
  split
  · exact kept
  · rename_i seen savepoints standing
    rw [standing] at held
    cases seen with
    | none => exact kept
    | some db => exact held.1 db rfl

theorem All.after (all : w.All P) {db : Database} (holds : P db) : (w.after db).All P := by
  obtain ⟨kept, held⟩ := all
  unfold Workspace.after
  split
  · rename_i standing
    exact ⟨holds, held⟩
  · rename_i seen savepoints standing
    rw [standing] at held
    refine ⟨kept, ?_, held.2⟩
    intro other same
    cases same
    exact holds

theorem All.begin (all : w.All P) (begun : w.begin = .ok next) : next.All P := by
  unfold Workspace.begin at begun
  split at begun <;> cases begun
  refine ⟨all.1, ?_, ?_⟩
  · intro db none
    cases none
  · intro point member
    cases member

theorem All.commit (all : w.All P) (committed : w.commit = .ok next) : next.All P := by
  obtain ⟨kept, held⟩ := all
  unfold Workspace.commit at committed
  split at committed
  · cases committed
  · rename_i seen savepoints standing
    cases committed
    rw [standing] at held
    cases seen with
    | none => exact ⟨kept, trivial⟩
    | some db => exact ⟨held.1 db rfl, trivial⟩

theorem All.rollback (all : w.All P) (undone : w.rollback = .ok next) : next.All P := by
  unfold Workspace.rollback at undone
  split at undone <;> cases undone
  exact ⟨all.1, trivial⟩

theorem All.savepoint (all : w.All P) (name : String) : (w.savepoint name).All P := by
  obtain ⟨kept, held⟩ := all
  unfold Workspace.savepoint
  split
  · refine ⟨kept, ?_, ?_⟩
    · intro db none
      cases none
    · intro point member db
      rw [List.mem_singleton.mp member]
      exact fun none => nomatch none
  · rename_i seen savepoints standing
    rw [standing] at held
    refine ⟨kept, held.1, ?_⟩
    intro point member
    rcases List.mem_cons.mp member with rfl | earlier
    · exact held.1
    · exact held.2 point earlier

/-- A savepoint that is found is one of those that were set, and so are those before it. -/
theorem subset_of_fromSavepoint? {name : String} {savepoints earlier : List Savepoint}
    {point : Savepoint} (found : fromSavepoint? name savepoints = some (point, earlier)) :
    point :: earlier ⊆ savepoints := by
  unfold fromSavepoint? at found
  split at found
  · rename_i first others left
    cases found
    rw [← left]
    exact (List.dropWhile_sublist _).subset
  · cases found

theorem All.release (all : w.All P) {name : String} (released : w.release name = .ok next) :
    next.All P := by
  have ⟨kept, held⟩ := all
  unfold Workspace.release at released
  split at released
  · cases released
  · rename_i seen savepoints standing
    rw [standing] at held
    split at released
    · cases released
    · rename_i point earlier found
      split at released
      · exact all.commit released
      · cases released
        refine ⟨kept, held.1, ?_⟩
        intro other member
        exact held.2 other (subset_of_fromSavepoint? found (List.mem_cons_of_mem _ member))

theorem All.rollbackTo (all : w.All P) {name : String} (undone : w.rollbackTo name = .ok next) :
    next.All P := by
  obtain ⟨kept, held⟩ := all
  unfold Workspace.rollbackTo at undone
  split at undone
  · cases undone
  · rename_i seen savepoints standing
    rw [standing] at held
    split at undone
    · cases undone
    · rename_i point earlier found
      cases undone
      refine ⟨kept, held.2 point (subset_of_fromSavepoint? found List.mem_cons_self), ?_⟩
      intro other member
      exact held.2 other (subset_of_fromSavepoint? found member)

/-! ## Statements and texts -/

/-- A property that the effect of every statement keeps that was read from a text. -/
def Lasting (P : Database -> Prop) : Prop :=
  ∀ {db : Database} {cells : List Cell} {s : Statement} {effect : Effect}, P db -> s.Declares ->
    effectOf db cells s = .ok effect -> P effect.database

theorem All.attempt (lasting : Lasting P) (all : w.All P) {work : Work}
    (declares : work.1.Declares) : (w.attempt work).All P := by
  cases ran : w.run work.2 work.1 with
  | error fault =>
      rw [attempt_of_refused ran, Workspace.refused]
      split <;> exact all
  | ok done =>
      obtain ⟨s, cells⟩ := work
      obtain ⟨table, reached⟩ := done
      rw [attempt_of_ran ran]
      cases acts : s.isAction with
      | true =>
          rw [run_eq_of_action w cells acts] at ran
          obtain ⟨effect, effected, left⟩ := exists_ok_of_map ran
          cases left
          exact all.after (lasting all.seen declares effected)
      | false =>
          cases s with
          | begin => exact all.begin (eq_ok_of_silent ran)
          | commit => exact all.commit (eq_ok_of_silent ran)
          | rollback => exact all.rollback (eq_ok_of_silent ran)
          | savepoint name =>
              cases ran
              exact all.savepoint name
          | release name => exact all.release (eq_ok_of_silent ran)
          | rollbackTo name => exact all.rollbackTo (eq_ok_of_silent ran)
          | _ => cases acts

/-- Every statement of a text was read from it. -/
theorem declares_of_mem_worksFrom {values : List Value} {used : Nat}
    {runs : List (List (LexemeKind × List Char))} :
    ∀ work ∈ worksFrom values w used runs, work.1.Declares := by
  induction runs generalizing w used with
  | nil => exact fun work member => absurd member List.not_mem_nil
  | cons run rest ih =>
      intro work member
      rw [worksFrom] at member
      rcases given : workOf values used run with fault | _ | ⟨first, taken⟩
      · rw [given] at member
        cases member
      · rw [given] at member
        exact ih work member
      · have declares : first.1.Declares := by
          unfold workOf at given
          split at given
          · cases given
          · cases given
          · rename_i statement parsed
            obtain ⟨bound, -, taken⟩ := exists_ok_of_map given
            cases taken
            exact declares_of_parse parsed
        rw [given] at member
        dsimp only at member
        split at member
        · rw [List.mem_singleton.mp member]
          exact declares
        · rcases List.mem_cons.mp member with rfl | later
          · exact declares
          · exact ih work later

theorem All.foldl_attempt (lasting : Lasting P) (all : w.All P) {done : List Work}
    (declared : ∀ work ∈ done, work.1.Declares) : (done.foldl Workspace.attempt w).All P := by
  induction done generalizing w with
  | nil => exact all
  | cons work rest ih =>
      refine ih (all.attempt lasting (declared work List.mem_cons_self)) ?_
      exact fun other member => declared other (List.mem_cons_of_mem _ member)

theorem All.runText (lasting : Lasting P) (all : w.All P) (sql : String) (values : List Value) :
    (w.runText sql values).2.All P := by
  rw [Workspace.runText, runStatements_eq_foldl]
  exact all.foldl_attempt lasting declares_of_mem_worksFrom

end Workspace

namespace Engine

variable {engine : Engine} {c : ConnectionId}

/-! ## Requests -/

theorem All.workspace (all : engine.All P) {connection : Connection}
    (found : engine.connections.lookup c = some connection) :
    (engine.workspace connection).All P := by
  obtain ⟨own, held⟩ := all.2 (c, connection) (mem_of_lookup found)
  refine ⟨?_, held⟩
  change P (if engine.location == .memory then connection.own else engine.shared)
  split
  · exact own
  · exact all.1

/-- What a connection sees of a database. -/
theorem All.of_workspace? (all : engine.All P) {w : Workspace}
    (there : engine.workspace? c = some w) : w.All P := by
  obtain ⟨connection, found, rfl⟩ := Option.map_eq_some_iff.mp there
  exact all.workspace found

/-- A request that keeps a property of its workspace keeps it of the engine. -/
theorem All.within {α : Type}
    {action : Connection -> Workspace -> Except DriverFault α × Connection × Workspace}
    (all : engine.All P)
    (keeps : ∀ connection w, w.All P -> (action connection w).2.2.All P)
    (owns : ∀ connection w, (action connection w).2.1.own = connection.own) :
    (within c action engine).2.All P := by
  cases found : engine.connections.lookup c with
  | none =>
      rw [within_of_closed found]
      exact all
  | some connection =>
      have reached := keeps connection _ (all.workspace found)
      have own := (all.2 (c, connection) (mem_of_lookup found)).1
      rw [within_of_open found]
      refine ⟨?_, ?_⟩
      · change P (if engine.location == .memory then engine.shared else _)
        split
        · exact all.1
        · exact reached.1
      · intro entry member
        obtain ⟨old, before, rfl⟩ := List.mem_map.mp member
        split
        · refine ⟨?_, reached.2⟩
          change P (if engine.location == .memory then _ else (action _ _).2.1.own)
          split
          · exact reached.1
          · rw [owns]
            exact own
        · exact all.2 old before

theorem All.deepen {connection : Connection} {w : Workspace} {depth : Nat}
    {changed : Except Fault Workspace} (all : w.All P)
    (keeps : ∀ next, changed = .ok next -> next.All P) :
    (deepen connection w depth changed).2.2.All P := by
  unfold Engine.deepen
  split
  · exact keeps _ rfl
  · exact all

theorem own_deepen {connection : Connection} {w : Workspace} {depth : Nat}
    {changed : Except Fault Workspace} :
    (Engine.deepen connection w depth changed).2.1.own = connection.own := by
  unfold Engine.deepen
  split <;> rfl

theorem All.begin (all : engine.All P) : (begin c engine).2.All P := by
  refine all.within ?_ (fun _ _ => own_deepen)
  intro connection w held
  refine All.deepen held ?_
  intro next begun
  split at begun
  · exact held.begin begun
  · cases begun
    exact held.savepoint _

theorem All.commit (all : engine.All P) : (commit c engine).2.All P := by
  refine all.within ?_ ?_
  · intro connection w held
    split
    · exact held
    · exact All.deepen held fun next => held.commit
    · exact All.deepen held fun next => held.release
  · intro connection w
    split
    · rfl
    · exact own_deepen
    · exact own_deepen

theorem All.rollback (all : engine.All P) : (rollback c engine).2.All P := by
  refine all.within ?_ ?_
  · intro connection w held
    split
    · exact held
    · exact All.deepen held fun next => held.rollback
    · exact All.deepen held fun next => held.rollbackTo
  · intro connection w
    split
    · rfl
    · exact own_deepen
    · exact own_deepen

/-- A property that statements keep and a new database has is kept by every event. -/
theorem All.serve (initial : P {}) (lasting : Workspace.Lasting P) (all : engine.All P)
    (event : Event) : (engine.serve event).All P := by
  match event with
  | .opened =>
      rw [Engine.serve, connect]
      split
      · exact all
      · refine ⟨all.1, ?_⟩
        intro entry member
        rcases List.mem_cons.mp member with rfl | there
        · exact ⟨initial, trivial⟩
        · exact all.2 entry there
  | .sent c (.execute sql values) =>
      exact all.within (fun _ w held => held.runText lasting sql values) fun _ _ => rfl
  | .sent c .begin => exact all.begin
  | .sent c .commit => exact all.commit
  | .sent c .rollback => exact all.rollback
  | .sent c .disconnect =>
      exact ⟨all.1, fun entry member => all.2 entry (List.mem_filter.mp member).1⟩

theorem All.history (initial : P {}) (lasting : Workspace.Lasting P) (all : engine.All P)
    (history : List Event) : (history.foldl Engine.serve engine).All P := by
  induction history generalizing engine with
  | nil => exact all
  | cons event rest ih => exact ih (all.serve initial lasting event)

/-- Every database that a connection sees after any history is sound. -/
theorem sound_seen {location : Location} (history : List Event) {w : Workspace}
    (there : (history.foldl Engine.serve { location := location }).workspace? c = some w) :
    w.seen.Sound := by
  have start : Engine.All Database.Sound { location := location } :=
    ⟨Database.sound_empty, fun entry member => absurd member List.not_mem_nil⟩
  have reached := start.history Database.sound_empty Database.sound_effectOf history
  exact (reached.of_workspace? there).seen

end Engine
end Embedded
end SqlGate
