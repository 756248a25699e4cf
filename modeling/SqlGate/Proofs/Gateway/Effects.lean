import SqlGate.Gateway.Operation

namespace SqlGate

/-!
# What operations leave behind

Every operation on a gateway is made of few parts: a pool is replaced, the
database moves on, a handle is added, or the connection of a handle is taken
from it.  The lemmas here say once, for each operation, which of these parts
it is made of, so that what all parts keep is kept by every operation.
-/

/-- All that can come of a request for a connection. -/
inductive Pool.Lends {σ : Type} (driver : Driver σ) (pool : Pool) (s : σ) :
    Except DriverFault ConnectionId × Pool × σ -> Prop where
  | idle {c : ConnectionId} {rest : List ConnectionId} {left : Pool}
      (waiting : pool.idle = c :: rest) (others : left.idle = rest) :
      Lends driver pool s (.ok c, left, s)
  | opened (c : ConnectionId) {left : Pool} {after : σ}
      (connected : driver.connect s = (.ok c, after)) (others : left.idle = pool.idle) :
      Lends driver pool s (.ok c, left, after)
  | refused {fault : DriverFault} : Lends driver pool s (.error fault, pool, s)
  | unreachable {fault : DriverFault} {after : σ}
      (failed : driver.connect s = (.error fault, after)) :
      Lends driver pool s (.error fault, pool, after)

theorem Pool.lends {σ : Type} (driver : Driver σ) (pool : Pool) (s : σ) :
    pool.Lends driver s (pool.acquire driver s) := by
  unfold acquire
  by_cases closed : pool.isClosed = true
  · rw [if_pos closed]
    exact .refused
  · rw [if_neg closed]
    cases waiting : pool.idle with
    | cons c rest => exact .idle waiting rfl
    | nil =>
        dsimp only
        split
        · rcases connected : driver.connect s with ⟨fault | c, after⟩
          · exact .unreachable connected
          · exact .opened c connected waiting.symm
        · exact .refused

namespace Gateway

variable {σ : Type}

/-! ## Parts -/

/-- The database moved on. -/
def withDatabase (g : Gateway σ) (s : σ) : Gateway σ :=
  { g with database := s }

/-- A manager has another pool, and the database moved on. -/
def withPool (g : Gateway σ) (m : ManagerId) (pool : Pool) (s : σ) : Gateway σ :=
  (g.editManager m fun manager => { manager with pool := pool }).withDatabase s

/-- A handle for a transaction that a manager has begun on a connection. -/
def begun (g : Gateway σ) (m : ManagerId) (id : String) (c : ConnectionId) : Gateway σ :=
  { g.editManager m Manager.opened with
    handles := (g.nextHandle, Handle.opened id m c) :: g.handles
    nextHandle := g.nextHandle + 1 }

/-- The connection of a handle was taken from it. -/
def taken (g : Gateway σ) (h : HandleId) (owner : ManagerId) (next : TransactionState) :
    Gateway σ :=
  (g.editHandle h fun handle => handle.released next).editManager owner Manager.closed

def without (g : Gateway σ) (h : HandleId) : Gateway σ :=
  { g with handles := g.handles.filter fun entry => entry.1 != h }

section

variable (driver : Driver σ) (m : ManagerId) (g : Gateway σ)

/-! ## Connections of pools -/

/-- A request for a connection is answered by the pool. -/
theorem acquire_eq {manager : Manager} (known : g.manager? m = some manager)
    (toFailure : Manager -> DriverFault -> Failure) :
    g.acquire driver m toFailure
      = ((manager.pool.acquire driver g.database).1.mapError (toFailure manager),
        g.withPool m (manager.pool.acquire driver g.database).2.1
          (manager.pool.acquire driver g.database).2.2) := by
  unfold acquire
  rw [known]
  dsimp only
  rcases manager.pool.acquire driver g.database with ⟨fault | c, pool, s⟩
  · rfl
  · rfl

theorem acquire_of_unknown (unknown : g.manager? m = none)
    (toFailure : Manager -> DriverFault -> Failure) :
    g.acquire driver m toFailure = (.error (.internal "Unknown manager"), g) := by
  unfold acquire
  rw [unknown]

theorem giveBack_eq {manager : Manager} (known : g.manager? m = some manager) (c : ConnectionId) :
    g.giveBack driver m c
      = g.withPool m (manager.pool.giveBack driver c g.database).1
          (manager.pool.giveBack driver c g.database).2 := by
  unfold giveBack
  rw [known]
  rfl

theorem giveBack_of_unknown (unknown : g.manager? m = none) (c : ConnectionId) :
    g.giveBack driver m c = g := by
  unfold giveBack
  rw [unknown]

theorem close_eq {manager : Manager} (known : g.manager? m = some manager) :
    g.close driver m
      = g.withPool m (manager.pool.close driver g.database).1
          (manager.pool.close driver g.database).2 := by
  unfold close
  rw [known]
  rfl

theorem close_of_unknown (unknown : g.manager? m = none) : g.close driver m = g := by
  unfold close
  rw [unknown]

/-- A connection is lent only by a manager that is there. -/
theorem manager_of_acquire {driver : Driver σ} {m : ManagerId} {g after : Gateway σ}
    {toFailure : Manager -> DriverFault -> Failure} {c : ConnectionId}
    (acquired : g.acquire driver m toFailure = (.ok c, after)) :
    m < g.managers.length := by
  cases known : g.manager? m with
  | none =>
      rw [acquire_of_unknown driver m g known] at acquired
      cases acquired
  | some manager => exact (List.getElem?_eq_some_iff.mp known).1

theorem runOn_snd (sql : String) (params : List Value) (c : ConnectionId) (s : σ) :
    (runOn driver sql params c s).2 = (driver.execute c sql params s).2 := by
  unfold runOn
  rcases driver.execute c sql params s with ⟨fault | answer, after⟩
  · rfl
  · rfl

/-- Asking whether the database answers is running a statement. -/
theorem checkHealth_snd : (g.checkHealth driver m).2 = (g.query driver m "SELECT 1" []).2 := by
  unfold checkHealth
  rcases g.query driver m "SELECT 1" [] with ⟨failure | result, after⟩
  · rfl
  · rfl

/-- Asking for the version is running a statement. -/
theorem serverVersion_snd (kind : DatabaseKind) :
    (g.serverVersion driver m kind).2 = (g.query driver m (versionSql kind) []).2 := by
  unfold serverVersion
  rcases g.query driver m (versionSql kind) [] with ⟨failure | result, after⟩
  · rfl
  · dsimp only
    cases versionOf? result with
    | none => rfl
    | some version => rfl

/-- Connecting adds a manager and may run a statement on it. -/
theorem connect_snd (config : ConnectionConfig) :
    (g.connect driver config).2 = (g.create config).2
      ∨ ∃ m, (g.connect driver config).2
          = ((g.create config).2.query driver m (versionSql config.kind) []).2 := by
  unfold connect
  rcases g.create config with ⟨failure | m, made⟩
  · exact Or.inl rfl
  · refine Or.inr ⟨m, ?_⟩
    rw [← serverVersion_snd]
    dsimp only
    rcases made.serverVersion driver m config.kind with ⟨failure | version, after⟩
    · rfl
    · rfl

/-! ## Connections of handles -/

/-- A transaction is begun on a connection that is lent, or it is not begun. -/
theorem begin_snd (id : String) :
    (∃ failure, g.acquire driver m Manager.acquireFailure
        = (.error failure, (g.begin driver m id).2))
      ∨ ∃ c lent, g.acquire driver m Manager.acquireFailure = (.ok c, lent) ∧
          ((g.begin driver m id).2
              = (lent.withDatabase (driver.begin c lent.database).2).giveBack driver m c
            ∨ (g.begin driver m id).2
              = (lent.withDatabase (driver.begin c lent.database).2).begun m id c) := by
  unfold begin
  rcases g.acquire driver m Manager.acquireFailure with ⟨failure | c, lent⟩
  · exact Or.inl ⟨failure, rfl⟩
  · refine Or.inr ⟨c, lent, rfl, ?_⟩
    dsimp only
    rcases driver.begin c lent.database with ⟨fault | _, s⟩
    · exact Or.inl rfl
    · exact Or.inr rfl

variable (h : HandleId)

theorem queryWithHandle_of_settled {handle : Handle} (found : g.handle? h = some handle)
    (settled : handle.lease = none) (sql : String) (params : List Value) :
    g.queryWithHandle driver h sql params = (.error handle.alreadyReleased, g) := by
  simp only [queryWithHandle, found, settled]

/-- A statement runs on the connection of the handle, or nothing happens. -/
theorem queryWithHandle_snd (sql : String) (params : List Value) :
    (g.queryWithHandle driver h sql params).2 = g
      ∨ ∃ handle c, g.handle? h = some handle ∧ handle.lease = some c ∧
          (g.queryWithHandle driver h sql params).2
            = g.withDatabase (driver.execute c sql params g.database).2 := by
  cases found : g.handle? h with
  | none => exact Or.inl (by simp only [queryWithHandle, found])
  | some handle =>
      cases leased : handle.lease with
      | none => exact Or.inl (by rw [queryWithHandle_of_settled driver g h found leased])
      | some c =>
          refine Or.inr ⟨handle, c, rfl, leased, ?_⟩
          simp only [queryWithHandle, found, leased, runOn_snd]
          rfl

/-- A builder runs its statement on the handle, or nothing happens. -/
theorem executeIn_snd (b : Builder) :
    (b.executeIn driver h g).2 = g
      ∨ ∃ sql params, (b.executeIn driver h g).2 = (g.queryWithHandle driver h sql params).2 := by
  unfold Builder.executeIn
  cases b.build with
  | error fault => exact Or.inl rfl
  | ok statement => exact Or.inr ⟨statement.sql, statement.params, rfl⟩

variable (next : TransactionState) (finish : ConnectionId -> σ -> Except DriverFault Unit × σ)

/-- A handle that owns a connection loses it, whatever the database answers. -/
theorem release_of_lease {handle : Handle} {c : ConnectionId} (found : g.handle? h = some handle)
    (leased : handle.lease = some c) :
    g.release driver next finish h
      = ((settle driver finish c g.database).1,
        ((g.taken h handle.owner next).withDatabase
          (settle driver finish c g.database).2).giveBack driver handle.owner c) := by
  simp only [release, found, leased]
  rfl

theorem release_of_settled {handle : Handle} (found : g.handle? h = some handle)
    (settled : handle.lease = none) :
    g.release driver next finish h = (.error handle.alreadyReleased, g) := by
  simp only [release, found, settled]

/-- The connection of a handle is taken from it, or nothing happens. -/
theorem release_snd :
    (g.release driver next finish h).2 = g
      ∨ ∃ handle c, g.handle? h = some handle ∧ handle.lease = some c ∧
          (g.release driver next finish h).2
            = ((g.taken h handle.owner next).withDatabase
                (settle driver finish c g.database).2).giveBack driver handle.owner c := by
  cases found : g.handle? h with
  | none => exact Or.inl (by simp only [release, found])
  | some handle =>
      cases leased : handle.lease with
      | none => exact Or.inl (by rw [release_of_settled driver g h next finish found leased])
      | some c =>
          refine Or.inr ⟨handle, c, rfl, leased, ?_⟩
          rw [release_of_lease driver g h next finish found leased]

/-- A handle is dropped with its connection, if it owns one. -/
theorem drop_eq :
    (g.handle? h = none ∧ g.drop driver h = g)
      ∨ (∃ handle, g.handle? h = some handle ∧ handle.lease = none ∧
          g.drop driver h = g.without h)
      ∨ ∃ handle c, g.handle? h = some handle ∧ handle.lease = some c ∧
          g.drop driver h
            = (((g.without h).editManager handle.owner Manager.closed).withDatabase
                (driver.rollback c g.database).2).giveBack driver handle.owner c := by
  unfold drop
  cases g.handle? h with
  | none => exact Or.inl ⟨rfl, rfl⟩
  | some handle =>
      cases leased : handle.lease with
      | none =>
          refine Or.inr (Or.inl ⟨handle, rfl, leased, ?_⟩)
          simp only [leased]
          rfl
      | some c =>
          refine Or.inr (Or.inr ⟨handle, c, rfl, leased, ?_⟩)
          simp only [leased]
          rfl

end

end Gateway
end SqlGate
