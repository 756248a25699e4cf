import SqlGate.Gateway.Recorder
import SqlGate.Proofs.Gateway.Ledger

namespace SqlGate

/-!
# Lent connections

An open connection is held at one place at a time: it is idle in a pool, it is
owned by a handle, or the operation that borrowed it still has it in hand.
`Gateway.holders` counts the first two, `Gateway.Apart` bounds all three
together by one, and each part of an operation moves a connection from one
place to another.

Of the driver only this is asked, that a connection it opens is not one that it
opened before.  The record of what was sent then shows the point of it: nobody
but the holder of a handle sends anything on the connection of that handle.
-/

/-- A connection that is opened has a new number; `issued` tells the numbers that are not new. -/
structure Driver.NumbersApart {σ : Type} (driver : Driver σ)
    (issued : σ -> ConnectionId -> Prop) : Prop where
  /-- A number is new when it is given out, and not afterwards. -/
  fresh : ∀ {s after : σ} {c : ConnectionId},
    driver.connect s = (.ok c, after) -> ¬ issued s c ∧ issued after c
  connect : ∀ {s : σ} {c : ConnectionId}, issued s c -> issued (driver.connect s).2 c
  disconnect : ∀ {s : σ} {c : ConnectionId} (d : ConnectionId),
    issued s c -> issued (driver.disconnect d s) c
  execute : ∀ {s : σ} {c : ConnectionId} (d : ConnectionId) (sql : String) (params : List Value),
    issued s c -> issued (driver.execute d sql params s).2 c
  begin : ∀ {s : σ} {c : ConnectionId} (d : ConnectionId),
    issued s c -> issued (driver.begin d s).2 c
  commit : ∀ {s : σ} {c : ConnectionId} (d : ConnectionId),
    issued s c -> issued (driver.commit d s).2 c
  rollback : ∀ {s : σ} {c : ConnectionId} (d : ConnectionId),
    issued s c -> issued (driver.rollback d s).2 c

/-- Writing down what is asked gives out no numbers. -/
theorem Driver.NumbersApart.recorded {σ : Type} {driver : Driver σ}
    {issued : σ -> ConnectionId -> Prop} (numbers : driver.NumbersApart issued) :
    driver.recorded.NumbersApart fun s => issued s.1 where
  fresh := by
    rintro s ⟨after, record⟩ c opened
    have parts : (driver.connect s.1).1 = .ok c ∧ (driver.connect s.1).2 = after
        ∧ s.2 = record := by
      simpa [Driver.recorded] using opened
    exact numbers.fresh (Prod.ext parts.1 parts.2.1)
  connect := numbers.connect
  disconnect := numbers.disconnect
  execute := numbers.execute
  begin := numbers.begin
  commit := numbers.commit
  rollback := numbers.rollback

namespace Gateway

variable {σ : Type}

def idle (g : Gateway σ) : List ConnectionId :=
  g.managers.flatMap fun manager => manager.pool.idle

def leases (g : Gateway σ) : List ConnectionId :=
  g.handles.filterMap fun entry => entry.2.lease

/-- How many pools and handles hold a connection. -/
def holders (g : Gateway σ) (c : ConnectionId) : Nat :=
  g.idle.count c + g.leases.count c

/-- No connection is held twice, those in hand included, and all of them were opened. -/
structure Apart (issued : σ -> ConnectionId -> Prop) (inHand : List ConnectionId)
    (g : Gateway σ) : Prop where
  /-- A connection is held once at most. -/
  once : ∀ c, inHand.count c + g.holders c ≤ 1
  /-- What is held was opened. -/
  opened : ∀ c, 0 < inHand.count c + g.holders c -> issued g.database c

section

variable {issued : σ -> ConnectionId -> Prop} {inHand after : List ConnectionId}
  {g next : Gateway σ}

theorem apart_initial (issued : σ -> ConnectionId -> Prop) (start : σ) :
    (initial start).Apart issued [] where
  once := by simp [holders, idle, leases, initial]
  opened := by simp [holders, idle, leases, initial]

/-- Where nobody holds more than before, connections stay apart. -/
theorem Apart.of_le (apart : g.Apart issued inHand)
    (fewer : ∀ c, after.count c + next.holders c ≤ inHand.count c + g.holders c)
    (keeps : ∀ {c}, issued g.database c -> issued next.database c) :
    next.Apart issued after where
  once := fun c => Nat.le_trans (fewer c) (apart.once c)
  opened := fun c held => keeps (apart.opened c (Nat.lt_of_lt_of_le held (fewer c)))

theorem Apart.work (apart : g.Apart issued inHand) {s : σ}
    (keeps : ∀ {c}, issued g.database c -> issued s c) :
    (g.withDatabase s).Apart issued inHand :=
  apart.of_le (fun _ => Nat.le_refl _) keeps

/-! ## Pools -/

/-- What becomes idle when the pool of a manager is replaced. -/
theorem count_idle_of_pool {m : ManagerId} {manager : Manager} (known : g.manager? m = some manager)
    (pool : Pool) (c : ConnectionId) :
    (g.editManager m fun manager => { manager with pool := pool }).idle.count c
        + manager.pool.idle.count c
      = g.idle.count c + pool.idle.count c := by
  obtain ⟨inside, rfl⟩ := List.getElem?_eq_some_iff.mp known
  have managers : g.managers = g.managers.take m ++ g.managers[m] :: g.managers.drop (m + 1) := by
    rw [List.getElem_cons_drop, List.take_append_drop]
  have changed := List.modify_eq_take_cons_drop (f := fun manager => { manager with pool := pool })
    inside
  have before : g.idle.count c
      = ((g.managers.take m).flatMap fun manager => manager.pool.idle).count c
        + (g.managers[m].pool.idle.count c
          + ((g.managers.drop (m + 1)).flatMap fun manager => manager.pool.idle).count c) := by
    conv_lhs => rw [idle, managers]
    rw [List.flatMap_append, List.flatMap_cons, List.count_append, List.count_append]
  rw [before]
  simp only [idle, editManager, changed, List.flatMap_append, List.flatMap_cons,
    List.count_append]
  omega

/-- Replacing the pool of a manager moves the connections that are idle in it. -/
theorem holders_withPool {m : ManagerId} {manager : Manager} (known : g.manager? m = some manager)
    (pool : Pool) (s : σ) (c : ConnectionId) :
    (g.withPool m pool s).holders c + manager.pool.idle.count c
      = g.holders c + pool.idle.count c := by
  have moved := count_idle_of_pool known pool c
  simp only [holders, idle, leases, withPool, withDatabase, editManager] at moved ⊢
  omega

/-- A change of a manager that leaves its pool alone moves no connection. -/
theorem idle_editManager (g : Gateway σ) (m : ManagerId) (change : Manager -> Manager)
    (kept : ∀ manager, (change manager).pool = manager.pool) :
    (g.editManager m change).idle = g.idle := by
  have pools := map_modify Manager.pool change id kept g.managers m
  rw [List.modify_id] at pools
  have idle_eq : ∀ managers : List Manager, (managers.flatMap fun manager => manager.pool.idle)
      = (managers.map Manager.pool).flatMap Pool.idle := fun managers =>
    (List.flatMap_map ..).symm
  simp only [idle, editManager, idle_eq, pools]

/-! ## Handles -/

/-- The connection of a new handle is held by this handle. -/
theorem holders_begun (m : ManagerId) (id : String) (c d : ConnectionId) :
    (g.begun m id c).holders d = [c].count d + g.holders d := by
  have same : (g.begun m id c).idle = g.idle := idle_editManager g m Manager.opened fun _ => rfl
  have added : (g.begun m id c).leases = c :: g.leases := rfl
  rw [holders, holders, same, added, List.count_cons, List.count_cons, List.count_nil]
  omega

/-- A connection that is taken from a handle is not held by it any more. -/
theorem holders_taken (balanced : g.ledger.Balanced) {h : HandleId} {handle : Handle}
    {c : ConnectionId} (found : g.handle? h = some handle) (leased : handle.lease = some c)
    (next : TransactionState) (d : ConnectionId) :
    [c].count d + (g.taken h handle.owner next).holders d = g.holders d := by
  obtain ⟨front, behind, placed, before, after⟩ := balanced.split found
  have same : (g.taken h handle.owner next).idle = g.idle :=
    idle_editManager _ handle.owner Manager.closed fun _ => rfl
  have handles : (g.taken h handle.owner next).handles
      = front ++ (h, handle.released next) :: behind := by
    rw [← Ledger.map_split (Handle.released · next) before after, ← placed]
    rfl
  have owned : g.handles = front ++ (h, handle) :: behind := placed
  rw [holders, holders, same, leases, leases, handles, owned]
  simp only [List.filterMap_append, List.filterMap_cons, leased, Handle.released,
    List.count_append, List.count_cons, List.count_nil]
  omega

/-- A handle that is gone holds nothing. -/
theorem holders_without (balanced : g.ledger.Balanced) {h : HandleId} {handle : Handle}
    (found : g.handle? h = some handle) (d : ConnectionId) :
    handle.lease.toList.count d + (g.without h).holders d = g.holders d := by
  obtain ⟨front, behind, placed, before, after⟩ := balanced.split found
  have handles : (g.without h).handles = front ++ behind := by
    rw [← Ledger.filter_split before after, ← placed]
    rfl
  have owned : g.handles = front ++ (h, handle) :: behind := placed
  have same : (g.without h).idle = g.idle := rfl
  rw [holders, holders, same, leases, leases, handles, owned]
  cases leased : handle.lease with
  | none =>
      simp only [List.filterMap_append, List.filterMap_cons, leased, Option.toList,
        List.count_append, List.count_nil]
      omega
  | some c =>
      simp only [List.filterMap_append, List.filterMap_cons, leased, Option.toList,
        List.count_append, List.count_cons, List.count_nil]
      omega

/-- The count of a manager says nothing of its connections. -/
theorem holders_closed (g : Gateway σ) (m : ManagerId) (d : ConnectionId) :
    (g.editManager m Manager.closed).holders d = g.holders d := by
  rw [holders, holders, idle_editManager g m Manager.closed fun _ => rfl]
  rfl

variable {driver : Driver σ} (numbers : driver.NumbersApart issued)

include numbers

/-- A connection that is lent is in hand and nowhere else. -/
theorem Apart.acquire (apart : g.Apart issued []) (m : ManagerId)
    (toFailure : Manager -> DriverFault -> Failure) :
    (g.acquire driver m toFailure).2.Apart issued
      (g.acquire driver m toFailure).1.toOption.toList := by
  cases known : g.manager? m with
  | none =>
      rw [acquire_of_unknown driver m g known]
      exact apart
  | some manager =>
      rw [acquire_eq driver m g known]
      have moved := holders_withPool known
      rcases acquired : manager.pool.acquire driver g.database with ⟨outcome, pool, s⟩
      have lends := manager.pool.lends driver g.database
      rw [acquired] at lends
      cases lends with
      | idle waiting others =>
          refine apart.of_le (fun d => ?_) id
          have lent := moved pool g.database d
          rw [waiting, others, List.count_cons] at lent
          simp only [Except.mapError, Except.toOption, Option.toList, List.count_cons,
            List.count_nil]
          omega
      | opened c connected others =>
          obtain ⟨unused, used⟩ := numbers.fresh connected
          have kept : ∀ d, (g.withPool m pool s).holders d = g.holders d := by
            intro d
            have same := moved pool s d
            rw [others] at same
            omega
          -- nobody can hold the number of a connection that was not there before
          have free : g.holders c = 0 := by
            by_contra held
            exact unused (apart.opened c (by simpa using Nat.pos_of_ne_zero held))
          refine ⟨fun d => ?_, fun d held => ?_⟩
          · have once := apart.once d
            by_cases same : c = d
            · subst same
              simp [Except.mapError, Except.toOption, kept, free]
            · simpa [Except.mapError, Except.toOption, kept, List.count_cons, same] using once
          · by_cases same : c = d
            · subst same
              exact used
            · have older : 0 < g.holders d := by
                simpa [Except.mapError, Except.toOption, kept, List.count_cons, same] using held
              have known := numbers.connect (apart.opened d (by simpa using older))
              rw [connected] at known
              exact known
      | refused =>
          refine apart.of_le (fun d => ?_) id
          have kept := moved manager.pool g.database d
          simp only [Except.mapError, Except.toOption, Option.toList]
          omega
      | unreachable failed =>
          refine apart.of_le (fun d => ?_) fun known => ?_
          · have kept := moved manager.pool s d
            simp only [Except.mapError, Except.toOption, Option.toList]
            omega
          · have still := numbers.connect known
            rw [failed] at still
            exact still

/-- A connection that is given back is in hand no more. -/
theorem Apart.giveBack {c : ConnectionId} (apart : g.Apart issued [c]) (m : ManagerId) :
    (g.giveBack driver m c).Apart issued [] := by
  cases known : g.manager? m with
  | none =>
      rw [giveBack_of_unknown driver m g known]
      exact apart.of_le (fun d => by simp) id
  | some manager =>
      rw [giveBack_eq driver m g known]
      have moved := holders_withPool known
      unfold Pool.giveBack
      by_cases closed : manager.pool.isClosed = true
      · simp only [closed, if_true]
        refine apart.of_le (fun d => ?_) fun opened => numbers.disconnect c opened
        have kept := moved { manager.pool with lent := manager.pool.lent.erase c }
          (driver.disconnect c g.database) d
        simp only [List.count_nil, closed] at kept ⊢
        omega
      · simp only [closed]
        refine apart.of_le (fun d => ?_) id
        have returned := moved { manager.pool with
          idle := manager.pool.idle ++ [c], lent := manager.pool.lent.erase c } g.database d
        simp only [List.count_append, closed, Bool.false_eq_true, if_false] at returned ⊢
        rw [List.count_nil]
        omega

theorem Apart.query (apart : g.Apart issued []) (m : ManagerId) (sql : String)
    (params : List Value) : (g.query driver m sql params).2.Apart issued [] := by
  have lent := apart.acquire numbers m Manager.acquireFailure
  unfold Gateway.query lend
  rcases acquired : g.acquire driver m Manager.acquireFailure with ⟨failure | c, after⟩
  · rw [acquired] at lent
    exact lent
  · rw [acquired] at lent
    refine Apart.giveBack numbers (lent.work fun known => ?_) m
    rw [runOn_snd]
    exact numbers.execute c sql params known

theorem Apart.close (apart : g.Apart issued []) (m : ManagerId) :
    (g.close driver m).Apart issued [] := by
  cases known : g.manager? m with
  | none =>
      rw [close_of_unknown driver m g known]
      exact apart
  | some manager =>
      rw [close_eq driver m g known]
      refine apart.of_le (fun d => ?_) fun opened => ?_
      · have closed := holders_withPool known (manager.pool.close driver g.database).1
          (manager.pool.close driver g.database).2 d
        simp only [Pool.close, List.count_nil] at closed ⊢
        omega
      · have still : ∀ (idle : List ConnectionId) {s : σ} {d : ConnectionId}, issued s d ->
            issued (idle.foldl (fun s c => driver.disconnect c s) s) d := by
          intro idle
          induction idle with
          | nil => exact id
          | cons c rest ih => exact fun known => ih (numbers.disconnect c known)
        exact still manager.pool.idle opened

omit numbers in
theorem Apart.create (apart : g.Apart issued []) (config : ConnectionConfig) :
    (g.create config).2.Apart issued [] := by
  unfold Gateway.create Manager.create
  cases config.pool.validate with
  | error fault => exact apart
  | ok _ =>
      refine apart.of_le (fun d => ?_) id
      simp [holders, idle, leases, Pool.ofConfig]

theorem Apart.connect (apart : g.Apart issued []) (config : ConnectionConfig) :
    (g.connect driver config).2.Apart issued [] := by
  rcases connect_snd driver g config with same | ⟨m, asked⟩
  · rw [same]
    exact apart.create config
  · rw [asked]
    exact (apart.create config).query numbers m (versionSql config.kind) []

/-- The connection on which a transaction is begun goes to a new handle. -/
theorem Apart.begin (apart : g.Apart issued []) (m : ManagerId) (id : String) :
    (g.begin driver m id).2.Apart issued [] := by
  have lent := apart.acquire numbers m Manager.acquireFailure
  rcases begin_snd driver m g id with ⟨failure, refused⟩ | ⟨c, after, acquired, back | begun⟩
  · rw [refused] at lent
    exact lent
  · rw [acquired] at lent
    rw [back]
    exact Apart.giveBack numbers (lent.work (numbers.begin c)) m
  · rw [acquired] at lent
    rw [begun]
    refine (lent.work (numbers.begin c)).of_le (fun d => ?_) fun known => known
    rw [holders_begun]
    exact Nat.le_of_eq (Nat.zero_add _)

theorem Apart.queryWithHandle (apart : g.Apart issued []) (h : HandleId) (sql : String)
    (params : List Value) : (g.queryWithHandle driver h sql params).2.Apart issued [] := by
  rcases queryWithHandle_snd driver g h sql params with same | ⟨handle, c, -, -, ran⟩
  · rw [same]
    exact apart
  · rw [ran]
    exact apart.work (numbers.execute c sql params)

theorem Apart.executeIn (apart : g.Apart issued []) (h : HandleId) (b : Builder) :
    (b.executeIn driver h g).2.Apart issued [] := by
  rcases executeIn_snd driver g h b with same | ⟨sql, params, ran⟩
  · rw [same]
    exact apart
  · rw [ran]
    exact apart.queryWithHandle numbers h sql params

/-- Ending a transaction opens no connection. -/
theorem settle_keeps {finish : ConnectionId -> σ -> Except DriverFault Unit × σ}
    (keeps : ∀ {s c} (d), issued s c -> issued (finish d s).2 c) {s : σ} {c : ConnectionId}
    (d : ConnectionId) (known : issued s c) : issued (settle driver finish d s).2 c := by
  have finished := keeps d known
  unfold settle
  rcases ended : finish d s with ⟨fault | _, after⟩
  · rw [ended] at finished
    exact numbers.rollback d finished
  · rw [ended] at finished
    exact finished

theorem Apart.release (apart : g.Apart issued []) (balanced : g.ledger.Balanced) (h : HandleId)
    (next : TransactionState) {finish : ConnectionId -> σ -> Except DriverFault Unit × σ}
    (keeps : ∀ {s c} (d), issued s c -> issued (finish d s).2 c) :
    (g.release driver next finish h).2.Apart issued [] := by
  rcases release_snd driver g h next finish with same | ⟨handle, c, found, leased, released⟩
  · rw [same]
    exact apart
  · rw [released]
    have inHand : (g.taken h handle.owner next).Apart issued [c] := by
      refine apart.of_le (fun d => Nat.le_of_eq ?_) id
      rw [holders_taken balanced found leased next d, List.count_nil, Nat.zero_add]
    exact Apart.giveBack numbers (inHand.work (settle_keeps numbers keeps c)) handle.owner

theorem Apart.drop (apart : g.Apart issued []) (balanced : g.ledger.Balanced) (h : HandleId) :
    (g.drop driver h).Apart issued [] := by
  rcases drop_eq driver g h with
    ⟨-, same⟩ | ⟨handle, found, settled, dropped⟩ | ⟨handle, c, found, leased, abandoned⟩
  · rw [same]
    exact apart
  · rw [dropped]
    refine apart.of_le (fun d => Nat.le_of_eq ?_) id
    rw [← holders_without balanced found d, settled, Option.toList, List.count_nil, Nat.zero_add,
      Nat.zero_add]
  · rw [abandoned]
    have inHand : ((g.without h).editManager handle.owner Manager.closed).Apart issued [c] := by
      refine apart.of_le (fun d => Nat.le_of_eq ?_) id
      rw [holders_closed, ← holders_without balanced found d, leased, List.count_nil, Nat.zero_add]
      rfl
    exact Apart.giveBack numbers (inHand.work (numbers.rollback c)) handle.owner

/-- Connections stay apart, whatever a program does. -/
theorem Apart.perform (apart : g.Apart issued []) (balanced : g.ledger.Balanced)
    (operation : Operation) : (g.perform driver operation).Apart issued [] := by
  cases operation with
  | create config => exact apart.create config
  | connect config => exact apart.connect numbers config
  | close m => exact apart.close numbers m
  | query m sql params => exact apart.query numbers m sql params
  | checkHealth m =>
      refine Eq.mpr (congrArg _ (checkHealth_snd driver m g)) ?_
      exact apart.query numbers m "SELECT 1" []
  | begin m id => exact apart.begin numbers m id
  | queryWithHandle via h sql params => exact apart.queryWithHandle numbers h sql params
  | executeIn b h => exact apart.executeIn numbers h b
  | commit via h => exact apart.release numbers balanced h .committed numbers.commit
  | rollback via h => exact apart.release numbers balanced h .rolledBack numbers.rollback
  | drop h => exact apart.drop numbers balanced h

theorem Apart.performAll (apart : g.Apart issued []) (balanced : g.ledger.Balanced)
    (operations : List Operation) : (g.performAll driver operations).Apart issued [] := by
  induction operations generalizing g with
  | nil => exact apart
  | cons operation rest ih =>
      exact ih (apart.perform numbers balanced operation)
        ((ledger_perform driver g operation).balanced balanced)

end

end Gateway
end SqlGate
