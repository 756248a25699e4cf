import SqlGate.Embedded.Session
import SqlGate.Proofs.Success

namespace SqlGate
namespace Embedded

/-!
# The counter of a session

A session keeps one counter of rows written.  Statements that write rows set
it, all others leave it as it is, and the database reports the counter behind
every statement.  So after a run of statements the counter holds the last
number that was counted, and a text of one statement reports either what the
statement counts or what an earlier one left.
-/

/-- A statement with the cells of its parameters. -/
abbrev Work := Statement × List Cell

/-- Whether a statement is about data, not about transactions. -/
def Statement.isAction : Statement -> Bool
  | .begin | .commit | .rollback | .savepoint _ | .release _ | .rollbackTo _ => false
  | _ => true

theorem Statement.writesRows_of_noAction {s : Statement} (about : s.isAction = false) :
    s.writesRows = false := by
  cases s with
  | begin | commit | rollback | savepoint | release | rollbackTo => rfl
  | _ => cases about

namespace Workspace

/-! ## Statements -/

/-- The workspace after a statement, whether it was carried out or refused. -/
def attempt (w : Workspace) (work : Work) : Workspace :=
  match w.run work.2 work.1 with
  | .ok done => done.2
  | .error fault => w.refused work.1 fault

/-- The number of rows that a statement writes here, if it counts them.  A statement that began
to write and was refused has written nothing, and counts that. -/
def writtenBy (w : Workspace) (work : Work) : Option Nat :=
  match effectOf w.seen work.2 work.1 with
  | .ok effect => effect.written
  | .error fault => if work.1.writesRows && fault.isLate then some 0 else none

theorem written_counted (w : Workspace) (written : Option Nat) :
    (w.counted written).session.written = written.getD w.session.written := rfl

theorem written_after (w : Workspace) (db : Database) :
    (w.after db).session.written = w.session.written := by
  unfold after
  split <;> rfl

theorem written_savepoint (w : Workspace) (name : String) :
    (w.savepoint name).session.written = w.session.written := by
  unfold savepoint
  split <;> rfl

theorem written_begin {w next : Workspace} (begun : w.begin = .ok next) :
    next.session.written = w.session.written := by
  unfold begin at begun
  split at begun <;> cases begun
  rfl

theorem written_commit {w next : Workspace} (committed : w.commit = .ok next) :
    next.session.written = w.session.written := by
  unfold commit at committed
  split at committed <;> cases committed
  rfl

theorem written_rollback {w next : Workspace} (undone : w.rollback = .ok next) :
    next.session.written = w.session.written := by
  unfold rollback at undone
  split at undone <;> cases undone
  rfl

theorem written_release {w next : Workspace} {name : String}
    (released : w.release name = .ok next) : next.session.written = w.session.written := by
  unfold release at released
  split at released
  · cases released
  · split at released
    · cases released
    · split at released
      · exact written_commit released
      · cases released
        rfl

theorem written_rollbackTo {w next : Workspace} {name : String}
    (undone : w.rollbackTo name = .ok next) : next.session.written = w.session.written := by
  unfold rollbackTo at undone
  split at undone
  · cases undone
  · split at undone <;> cases undone
    rfl

/-- Only statements of those that write rows have an effect that counts them. -/
theorem written_of_reads {db : Database} {cells : List Cell} {s : Statement} {effect : Effect}
    (reads : s.writesRows = false) (effected : effectOf db cells s = .ok effect) :
    effect.written = none := by
  cases s with
  | insert | insertDefaults | update | delete | dropTable => cases reads
  | select q =>
      obtain ⟨table, -, effected⟩ := exists_ok_of_bind effected
      cases effected
      rfl
  | createTable lenient name columns clauses =>
      obtain ⟨fresh, -, effected⟩ := exists_ok_of_bind effected
      cases fresh with
      | false =>
          cases effected
          rfl
      | true =>
          obtain ⟨table, -, effected⟩ := exists_ok_of_bind effected
          cases effected
          rfl
  | createView lenient name q =>
      obtain ⟨fresh, -, effected⟩ := exists_ok_of_bind effected
      cases fresh <;> cases effected <;> rfl
  | dropView lenient name =>
      change db.dropView lenient name = .ok effect at effected
      unfold Database.dropView at effected
      split at effected
      · cases effected
        rfl
      · cases effected
      · split at effected <;> cases effected
        rfl
  | _ =>
      cases effected
      rfl

theorem writtenBy_of_effect {w : Workspace} {work : Work} {effect : Effect}
    (effected : effectOf w.seen work.2 work.1 = .ok effect) :
    w.writtenBy work = effect.written := by
  rw [writtenBy, effected]

theorem writtenBy_of_fault {w : Workspace} {work : Work} {fault : Fault}
    (refused : effectOf w.seen work.2 work.1 = .error fault) :
    w.writtenBy work = if work.1.writesRows && fault.isLate then some 0 else none := by
  rw [writtenBy, refused]

/-- A statement about data is carried out by its effect. -/
theorem run_eq_of_action (w : Workspace) (cells : List Cell) {s : Statement}
    (acts : s.isAction = true) :
    w.run cells s = (effectOf w.seen cells s).map fun effect =>
      (effect.result, (w.after effect.database).counted effect.written) := by
  cases s with
  | begin | commit | rollback | savepoint | release | rollbackTo => cases acts
  | _ => exact bind_pure_eq_map _ _

/-- A statement about transactions answers nothing and leaves what its change leaves. -/
theorem eq_ok_of_silent {changed : Except Fault Workspace} {next : Workspace} {table : ResultTable}
    (ran : (changed.map fun next => ((⟨[], []⟩ : ResultTable), next)) = .ok (table, next)) :
    changed = .ok next := by
  obtain ⟨reached, ended, answered⟩ := exists_ok_of_map ran
  cases answered
  exact ended

/-- A statement about transactions leaves the counter. -/
theorem written_run_of_noAction (w next : Workspace) (cells : List Cell) (table : ResultTable)
    {s : Statement} (about : s.isAction = false) (ran : w.run cells s = .ok (table, next)) :
    next.session.written = w.session.written := by
  cases s with
  | begin => exact written_begin (eq_ok_of_silent ran)
  | commit => exact written_commit (eq_ok_of_silent ran)
  | rollback => exact written_rollback (eq_ok_of_silent ran)
  | savepoint name =>
      cases ran
      exact w.written_savepoint name
  | release name => exact written_release (eq_ok_of_silent ran)
  | rollbackTo name => exact written_rollbackTo (eq_ok_of_silent ran)
  | _ => cases about

theorem writtenBy_of_noAction (w : Workspace) (work : Work) (about : work.1.isAction = false) :
    w.writtenBy work = none := by
  obtain ⟨s, cells⟩ := work
  cases s with
  | begin | commit | rollback | savepoint | release | rollbackTo => rfl
  | _ => cases about

theorem attempt_of_refused {w : Workspace} {work : Work} {fault : Fault}
    (refused : w.run work.2 work.1 = .error fault) : w.attempt work = w.refused work.1 fault := by
  rw [attempt, refused]

theorem attempt_of_ran {w : Workspace} {work : Work} {done : ResultTable × Workspace}
    (ran : w.run work.2 work.1 = .ok done) : w.attempt work = done.2 := by
  rw [attempt, ran]

/-- A statement sets the counter to what it counts, or leaves it. -/
theorem written_attempt (w : Workspace) (work : Work) :
    (w.attempt work).session.written = (w.writtenBy work).getD w.session.written := by
  cases acts : work.1.isAction with
  | false =>
      rw [writtenBy_of_noAction w work acts, Option.getD_none]
      cases ran : w.run work.2 work.1 with
      | ok done =>
          rw [attempt_of_ran ran]
          exact written_run_of_noAction w done.2 work.2 done.1 acts ran
      | error fault =>
          rw [attempt_of_refused ran, refused, Statement.writesRows_of_noAction acts]
          rfl
  | true =>
      have carried := w.run_eq_of_action work.2 acts
      cases effected : effectOf w.seen work.2 work.1 with
      | ok effect =>
          rw [effected] at carried
          rw [attempt_of_ran carried, written_counted, written_after, writtenBy_of_effect effected]
      | error fault =>
          rw [effected] at carried
          rw [attempt_of_refused carried, refused, writtenBy_of_fault effected]
          -- A refusal while rows are written sets the counter to zero, an earlier one keeps it.
          by_cases late : (work.1.writesRows && fault.isLate) = true
          · rw [if_pos late, if_pos late]
            rfl
          · rw [if_neg late, if_neg late]
            rfl

/-- A statement that is not of those that write rows counts none. -/
theorem writtenBy_of_reads (w : Workspace) {work : Work} (reads : work.1.writesRows = false) :
    w.writtenBy work = none := by
  cases effected : effectOf w.seen work.2 work.1 with
  | error fault =>
      rw [writtenBy_of_fault effected, reads, Bool.false_and, if_neg Bool.false_ne_true]
  | ok effect =>
      rw [writtenBy_of_effect effected]
      exact written_of_reads reads effected

/-! ## Runs of statements -/

/-- The numbers that statements count one after another. -/
def writtenIn (w : Workspace) : List Work -> List Nat
  | [] => []
  | work :: rest => (w.writtenBy work).toList ++ (w.attempt work).writtenIn rest

/-- After a run of statements, the counter holds the last number that was counted. -/
theorem written_foldl_attempt (w : Workspace) (works : List Work) :
    (works.foldl attempt w).session.written
      = (w.writtenIn works).getLast?.getD w.session.written := by
  induction works generalizing w with
  | nil => rfl
  | cons work rest ih =>
      rw [List.foldl_cons, ih, written_attempt, writtenIn, List.getLast?_append]
      cases ((w.attempt work).writtenIn rest).getLast? with
      | some counted => rfl
      | none => cases w.writtenBy work <;> rfl

/-! ## Texts -/

/-- The statement of a run of lexemes with the cells of its parameters, if there is one, and how
many values are used up behind it. -/
def workOf (values : List Value) (used : Nat) (run : List (LexemeKind × List Char)) :
    Except DriverFault (Option (Work × Nat)) :=
  match parse (tokensFrom [] [] run).1 with
  | .error fault => .error fault.toDriverFault
  | .ok none => .ok none
  | .ok (some statement) =>
      (bind (tokensFrom [] [] run).2 values used).map fun bound =>
        some ((statement, bound.1), bound.2)

theorem runStatements_cons (values : List Value) (w : Workspace) (used : Nat) (done : TextResult)
    (run : List (LexemeKind × List Char)) (rest : List (List (LexemeKind × List Char))) :
    runStatements values w used done (run :: rest) =
      match workOf values used run with
      | .error fault => (.error fault, w)
      | .ok none => runStatements values w used done rest
      | .ok (some (work, used)) =>
          match w.run work.2 work.1 with
          | .error fault => (.error fault.toDriverFault, w.refused work.1 fault)
          | .ok (table, next) =>
              runStatements values next used
                ⟨done.tables ++ [table], done.affected + next.session.written⟩ rest := by
  rw [runStatements, workOf]
  obtain ⟨tokens, names⟩ := tokensFrom [] [] run
  dsimp only
  rcases parse tokens with fault | _ | statement
  · rfl
  · rfl
  · cases bind names values used <;> rfl

/-- The statements of a text that are carried out or refused, up to the first that fails. -/
def worksFrom (values : List Value) (w : Workspace) (used : Nat) :
    List (List (LexemeKind × List Char)) -> List Work
  | [] => []
  | run :: rest =>
      match workOf values used run with
      | .error _ => []
      | .ok none => worksFrom values w used rest
      | .ok (some (work, used)) =>
          match w.run work.2 work.1 with
          | .error _ => [work]
          | .ok (_, next) => work :: worksFrom values next used rest

/-- The statements of a text, with the cells of their parameters. -/
def works (w : Workspace) (sql : String) (values : List Value) : List Work :=
  worksFrom values w 0 (statementLexemes (lexemes sql.toList))

/-- A text leaves what its statements leave. -/
theorem runStatements_eq_foldl (values : List Value) (w : Workspace) (used : Nat)
    (done : TextResult) (runs : List (List (LexemeKind × List Char))) :
    (runStatements values w used done runs).2
      = (worksFrom values w used runs).foldl attempt w := by
  induction runs generalizing w used done with
  | nil => rfl
  | cons run rest ih =>
      rw [runStatements_cons, worksFrom]
      rcases workOf values used run with fault | _ | ⟨work, taken⟩
      · rfl
      · exact ih w used done
      · dsimp only
        cases ran : w.run work.2 work.1 with
        | error fault => exact (attempt_of_refused ran).symm
        | ok answered =>
            rw [List.foldl_cons, attempt_of_ran ran]
            exact ih answered.2 taken _

/-- A text of no statement answers nothing. -/
theorem runStatements_of_none {values : List Value} {w : Workspace} {used : Nat}
    {done result : TextResult} {runs : List (List (LexemeKind × List Char))}
    (empty : worksFrom values w used runs = [])
    (ran : (runStatements values w used done runs).1 = .ok result) : result = done := by
  induction runs generalizing w used with
  | nil => exact (Except.ok.inj ran).symm
  | cons run rest ih =>
      rw [runStatements_cons] at ran
      rw [worksFrom] at empty
      rcases given : workOf values used run with fault | _ | ⟨work, taken⟩
      · rw [given] at ran
        cases ran
      · rw [given] at ran empty
        exact ih empty ran
      · rw [given] at empty
        dsimp only at empty
        cases carried : w.run work.2 work.1 <;> rw [carried] at empty <;> cases empty

/-- A text of one statement counts what the counter holds behind it. -/
theorem affected_of_single {values : List Value} {w : Workspace} {used : Nat}
    {done result : TextResult} {runs : List (List (LexemeKind × List Char))} {work : Work}
    (single : worksFrom values w used runs = [work])
    (ran : (runStatements values w used done runs).1 = .ok result) :
    result.affected = done.affected + (w.attempt work).session.written := by
  induction runs generalizing w used with
  | nil => cases single
  | cons run rest ih =>
      rw [runStatements_cons] at ran
      rw [worksFrom] at single
      rcases given : workOf values used run with fault | _ | ⟨first, taken⟩
      · rw [given] at ran
        cases ran
      · rw [given] at ran single
        exact ih single ran
      · rw [given] at ran single
        dsimp only at ran single
        cases carried : w.run first.2 first.1 with
        | error fault =>
            rw [carried] at ran
            cases ran
        | ok answered =>
            rw [carried] at ran single
            obtain ⟨rfl, others⟩ := List.cons.inj single
            rw [runStatements_of_none others ran, attempt_of_ran carried]

end Workspace
end Embedded
end SqlGate
