import SqlGate.Embedded.Engine
import SqlGate.Proofs.Gateway.Ledger

namespace SqlGate

/-!
# What a committed handle tells

A handle is released before its transaction is ended: its connection is taken
from it and its state is set, and only then is the database asked to commit.
The database may refuse.  The state of the handle then says that it was
committed although nothing was kept.

So the state tells what was asked for, and the answer is told by the call that
asked: `CommitAnswered` follows a run up to the one commit that reaches the
database for a handle and keeps both, the answer of the database and what the
caller got.
-/

namespace Ledger

variable {l : Ledger} {h : HandleId} {handle : Handle}

/-- A handle that was in use once is as it is now, or gone, for good. -/
structure Final (l : Ledger) (h : HandleId) (handle : Handle) : Prop where
  old : h < l.next
  only : ∀ found, l.handles.lookup h = some found -> found = handle

/-- A handle without a connection is not changed by any step, and no other gets its number. -/
theorem Step.final {operation : Gateway.Operation} {before after : Ledger}
    (step : Step operation before after) (final : before.Final h handle)
    (settled : handle.lease = none) : after.Final h handle := by
  -- what loses its connection in this step had one, so it is another handle
  have elsewhere : ∀ {other : HandleId} {holder : Handle} {d : ConnectionId},
      before.handles.lookup other = some holder -> holder.lease = some d -> h ≠ other := by
    rintro other holder d held leased rfl
    rw [final.only holder held, settled] at leased
    cases leased
  cases step with
  | kept => exact final
  | added => exact ⟨final.old, final.only⟩
  | opened known =>
      refine ⟨Nat.lt_succ_of_lt final.old, ?_⟩
      intro found there
      change List.lookup h ((before.next, _) :: before.handles) = some found at there
      rw [List.lookup_cons, beq_false_of_ne (Nat.ne_of_lt final.old)] at there
      exact final.only found there
  | committed held leased =>
      refine ⟨final.old, ?_⟩
      intro found there
      rw [lookup_released, if_neg (elsewhere held leased)] at there
      exact final.only found there
  | rolledBack held leased =>
      refine ⟨final.old, ?_⟩
      intro found there
      rw [lookup_released, if_neg (elsewhere held leased)] at there
      exact final.only found there
  | @dropped _ gone _ _ _ =>
      refine ⟨final.old, ?_⟩
      intro found there
      rw [lookup_without] at there
      by_cases same : h = gone
      · rw [if_pos same] at there
        cases there
      · rw [if_neg same] at there
        exact final.only found there
  | abandoned held leased =>
      refine ⟨final.old, ?_⟩
      intro found there
      have kept : before.handles.lookup h = some found :=
        ((lookup_without before _ h).trans (if_neg (elsewhere held leased))).symm.trans there
      exact final.only found kept

/-- A handle becomes a committed one by a commit, at which it owns a connection. -/
theorem Step.committed_cases {operation : Gateway.Operation} {before after : Ledger}
    (step : Step operation before after) (found : after.handles.lookup h = some handle)
    (committed : handle.state = .committed) :
    before.handles.lookup h = some handle
      ∨ ∃ via earlier c, operation = .commit via h ∧ before.handles.lookup h = some earlier
          ∧ earlier.lease = some c := by
  cases step with
  | kept => exact Or.inl found
  | added => exact Or.inl found
  | opened known =>
      change List.lookup h ((before.next, _) :: before.handles) = some handle at found
      rw [List.lookup_cons] at found
      by_cases new : h = before.next
      · subst new
        rw [beq_self_eq_true] at found
        cases found
        cases committed
      · rw [beq_false_of_ne new] at found
        exact Or.inl found
  | @committed _ via other earlier c held leased =>
      rw [lookup_released] at found
      by_cases same : h = other
      · subst same
        exact Or.inr ⟨via, earlier, c, rfl, held, leased⟩
      · rw [if_neg same] at found
        exact Or.inl found
  | @rolledBack _ via other earlier c held leased =>
      rw [lookup_released] at found
      by_cases same : h = other
      · subst same
        rw [if_pos rfl, held] at found
        cases found
        cases committed
      · rw [if_neg same] at found
        exact Or.inl found
  | @dropped _ gone _ _ _ =>
      rw [lookup_without] at found
      by_cases same : h = gone
      · rw [if_pos same] at found
        cases found
      · rw [if_neg same] at found
        exact Or.inl found
  | @abandoned _ gone _ _ _ _ =>
      have left := (lookup_without before gone h).symm.trans found
      by_cases same : h = gone
      · rw [if_pos same] at left
        cases left
      · rw [if_neg same] at left
        exact Or.inl left

end Ledger

namespace Gateway

variable {σ : Type}

/-- In a run, the commit of a handle reaches the database: the handle still owns a connection, the
database gives `answer`, and the caller gets `outcome`. -/
inductive CommitAnswered (driver : Driver σ) (h : HandleId) :
    Gateway σ -> List Operation -> Except DriverFault Unit -> Outcome Unit -> Prop where
  | here {g : Gateway σ} {rest : List Operation} {handle : Handle} {c : ConnectionId}
      (via : ManagerId) (found : g.handle? h = some handle) (leased : handle.lease = some c) :
      CommitAnswered driver h g (.commit via h :: rest) (driver.commit c g.database).1
        (g.commit driver via h).1
  | later {g : Gateway σ} {operation : Operation} {rest : List Operation}
      {answer : Except DriverFault Unit} {outcome : Outcome Unit}
      (next : CommitAnswered driver h (g.perform driver operation) rest answer outcome) :
      CommitAnswered driver h g (operation :: rest) answer outcome

variable {driver : Driver σ} {g : Gateway σ} {h : HandleId} {handle : Handle}
  {operations : List Operation} {answer : Except DriverFault Unit} {outcome : Outcome Unit}

/-- The caller is told what the database answered. -/
theorem CommitAnswered.outcome_eq
    (answered : CommitAnswered driver h g operations answer outcome) :
    outcome = answer.mapError DriverFault.toFailure := by
  induction answered with
  | @here g rest handle c via found leased =>
      rw [commit, release_of_lease driver g h .committed driver.commit found leased, settle]
      rcases driver.commit c g.database with ⟨fault | _, after⟩
      · rfl
      · rfl
  | later next ih => exact ih

/-- Once it was committed, a handle is one without a connection whose state says so. -/
theorem final_commit (driver : Driver σ) (balanced : g.ledger.Balanced) (via : ManagerId)
    (found : g.handle? h = some handle) {c : ConnectionId} (leased : handle.lease = some c) :
    (g.perform driver (.commit via h)).ledger.Final h (handle.released .committed) := by
  have released : (g.perform driver (.commit via h)).ledger
      = g.ledger.released h handle.owner .committed := by
    change (g.commit driver via h).2.ledger = _
    rw [commit, release_of_lease driver g h .committed driver.commit found leased,
      ledger_giveBack, ledger_withDatabase, taken, ledger_closed]
    rfl
  have held : g.ledger.handles.lookup h = some handle := found
  rw [released]
  refine ⟨?_, ?_⟩
  · obtain ⟨front, behind, placed, -, -⟩ := balanced.split held
    refine balanced.fresh (h, handle) ?_
    rw [placed]
    exact List.mem_append_right _ List.mem_cons_self
  · intro later there
    rw [Ledger.lookup_released, if_pos rfl, held] at there
    exact (Option.some.inj there).symm

theorem final_performAll (driver : Driver σ) (final : g.ledger.Final h handle)
    (settled : handle.lease = none) (operations : List Operation) :
    (g.performAll driver operations).ledger.Final h handle := by
  induction operations generalizing g with
  | nil => exact final
  | cons operation rest ih => exact ih ((ledger_perform driver g operation).final final settled)

/-- For a handle without a connection no commit reaches the database any more. -/
theorem not_commitAnswered_of_final (final : g.ledger.Final h handle)
    (settled : handle.lease = none) : ¬ CommitAnswered driver h g operations answer outcome := by
  intro answered
  induction answered with
  | here via found leased =>
      rw [final.only _ found, settled] at leased
      cases leased
  | later next ih => exact ih ((ledger_perform driver _ _).final final settled)

/-- For each handle one commit at most reaches the database. -/
theorem CommitAnswered.unique (balanced : g.ledger.Balanced)
    (answered : CommitAnswered driver h g operations answer outcome)
    {other : Except DriverFault Unit} {told : Outcome Unit}
    (again : CommitAnswered driver h g operations other told) :
    other = answer ∧ told = outcome := by
  induction answered with
  | here via found leased =>
      cases again with
      | here again held lent =>
          obtain rfl := Option.some.inj (found.symm.trans held)
          obtain rfl := Option.some.inj (leased.symm.trans lent)
          exact ⟨rfl, rfl⟩
      | later next =>
          have final := final_commit driver balanced via found leased
          exact absurd next (not_commitAnswered_of_final final rfl)
  | later next ih =>
      cases again with
      | here via found leased =>
          have final := final_commit driver balanced via found leased
          exact absurd next (not_commitAnswered_of_final final rfl)
      | later again => exact ih ((ledger_perform driver _ _).balanced balanced) again

/-- A handle for which a commit reached the database is committed, whatever the answer was. -/
theorem CommitAnswered.committed (balanced : g.ledger.Balanced)
    (answered : CommitAnswered driver h g operations answer outcome)
    (found : (g.performAll driver operations).handle? h = some handle) :
    handle.state = .committed := by
  induction answered with
  | @here g rest earlier c via held leased =>
      have final := final_performAll driver (final_commit driver balanced via held leased) rfl rest
      rw [final.only handle found]
      rfl
  | later next ih => exact ih ((ledger_perform driver _ _).balanced balanced) found

/-- A handle that was not committed before is committed by a commit that reaches the database. -/
theorem exists_commitAnswered
    (uncommitted : ∀ earlier, g.handle? h = some earlier -> earlier.state ≠ .committed)
    (found : (g.performAll driver operations).handle? h = some handle)
    (committed : handle.state = .committed) :
    ∃ answer outcome, CommitAnswered driver h g operations answer outcome := by
  induction operations generalizing g with
  | nil => exact absurd committed (uncommitted handle found)
  | cons operation rest ih =>
      by_cases done : ∃ later, (g.perform driver operation).handle? h = some later
          ∧ later.state = .committed
      · obtain ⟨later, there, already⟩ := done
        rcases (ledger_perform driver g operation).committed_cases there already with
          before | ⟨via, earlier, c, rfl, held, leased⟩
        · exact absurd already (uncommitted later before)
        · exact ⟨_, _, .here via held leased⟩
      · have still : ∀ earlier, (g.perform driver operation).handle? h = some earlier ->
            earlier.state ≠ .committed :=
          fun earlier there already => done ⟨earlier, there, already⟩
        obtain ⟨answer, outcome, next⟩ := ih still found
        exact ⟨answer, outcome, .later next⟩

/-! ## Every run -/

/-- A handle is committed exactly if its commit reached the database, which happens at most once;
whether the database acknowledged it is told by the call and not by the state. -/
theorem committed_iff_commitAnswered {σ : Type} (driver : Driver σ) (start : σ)
    (operations : List Operation) (h : HandleId) (handle : Handle)
    (found : ((initial start).performAll driver operations).handle? h = some handle) :
    (handle.state = .committed
        ↔ ∃ answer outcome, CommitAnswered driver h (initial start) operations answer outcome)
      ∧ ∀ answer outcome, CommitAnswered driver h (initial start) operations answer outcome ->
          (answer = .ok () ↔ outcome = .ok ())
            ∧ (∀ fault, answer = .error fault -> outcome = .error fault.toFailure)
            ∧ ∀ other told, CommitAnswered driver h (initial start) operations other told ->
                other = answer ∧ told = outcome := by
  have balanced := balanced_initial start
  refine ⟨⟨?_, ?_⟩, ?_⟩
  · intro committed
    refine exists_commitAnswered ?_ found committed
    intro earlier there
    cases there
  · rintro ⟨answer, outcome, answered⟩
    exact answered.committed balanced found
  · intro answer outcome answered
    have told := answered.outcome_eq
    refine ⟨?_, ?_, fun other told again => answered.unique balanced again⟩
    · rw [told]
      cases answer with
      | error fault => exact ⟨nofun, nofun⟩
      | ok _ => exact ⟨fun _ => rfl, fun _ => rfl⟩
    · rintro fault rfl
      exact told

/-- A row is inserted in a transaction, a statement rolls the transaction back, and then its handle
is committed. -/
def lostInsert : List Operation :=
  [.create (.sqlite "a.db"), .query 0 "CREATE TABLE t (id INTEGER)" [], .begin 0 "tx_a",
    .queryWithHandle 0 0 "INSERT INTO t (id) VALUES (1)" [], .queryWithHandle 0 0 "ROLLBACK" [],
    .commit 0 0]

/-- The gateway after these calls on an empty database file. -/
def afterLostInsert : Gateway Embedded.Engine :=
  (initial { location := .file }).performAll Embedded.Engine.driver lostInsert

/-- What the database answers to the commit. -/
def nothingToCommit : DriverFault :=
  .refused "cannot commit - no transaction is active" (some "1")

theorem handle?_lostInsert :
    afterLostInsert.handle? 0 = some ⟨"tx_a", 0, .committed, none⟩ := by
  decide +kernel

theorem commitAnswered_lostInsert :
    ∃ outcome, CommitAnswered Embedded.Engine.driver 0 (initial { location := .file })
      lostInsert (.error nothingToCommit) outcome := by
  have found : ((initial { location := .file }).performAll Embedded.Engine.driver
      (lostInsert.take 5)).handle? 0 = some ⟨"tx_a", 0, .active, some 0⟩ := by
    decide +kernel
  have refused : (Embedded.Engine.driver.commit 0 ((initial { location := .file }).performAll
      Embedded.Engine.driver (lostInsert.take 5)).database).1 = .error nothingToCommit := by
    decide +kernel
  rw [← refused]
  exact ⟨_, .later (.later (.later (.later (.later (.here 0 found rfl)))))⟩

/-- The handle is committed, the caller was told that it is not, and there is no row. -/
theorem committed_lostInsert :
    afterLostInsert.handle? 0 = some ⟨"tx_a", 0, .committed, none⟩
      ∧ CommitAnswered Embedded.Engine.driver 0 (initial { location := .file }) lostInsert
          (.error nothingToCommit) (.error nothingToCommit.toFailure)
      ∧ (afterLostInsert.query Embedded.Engine.driver 0 "SELECT id FROM t" []).1.toOption.map
          (fun result => result.rows.length) = some 0 := by
  obtain ⟨outcome, answered⟩ := commitAnswered_lostInsert
  have tells := (committed_iff_commitAnswered _ _ _ _ _ handle?_lostInsert).2 _ _ answered
  rw [tells.2.1 _ rfl] at answered
  exact ⟨handle?_lostInsert, answered, by decide +kernel⟩

/-- It is not so that the database has acknowledged the commit of every committed handle. -/
theorem not_forall_committed_acknowledged :
    ¬ ∀ (σ : Type) (driver : Driver σ) (start : σ) (operations : List Operation) (h : HandleId)
        (handle : Handle),
      ((initial start).performAll driver operations).handle? h = some handle ->
      handle.state = .committed ->
      ∃ outcome, CommitAnswered driver h (initial start) operations (.ok ()) outcome := by
  intro claimed
  obtain ⟨outcome, acknowledged⟩ := claimed _ _ _ _ _ _ handle?_lostInsert rfl
  obtain ⟨told, refused⟩ := commitAnswered_lostInsert
  have same := refused.unique (balanced_initial _) acknowledged
  cases same.1

end Gateway
end SqlGate
