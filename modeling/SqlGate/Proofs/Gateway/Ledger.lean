import Mathlib.Data.List.Nodup
import SqlGate.Proofs.Gateway.Effects
import SqlGate.Proofs.Lookup

namespace SqlGate

/-!
# The ledger of open transactions

Three things tell whether a transaction is open: the state of its handle, the
connection that the handle owns, and the count of its manager.  They are
changed in different places, so a ledger takes from a gateway what they depend
on, `Ledger.Step` says once all that an operation can do to it, and `Balanced`
is the invariant that keeps the three in step.

The database plays no part in this.  Whether it answers decides which step is
taken, never what the step does.
-/

/-- What the counting of open transactions depends on. -/
structure Ledger where
  /-- The handles that were not dropped. -/
  handles : List (HandleId × Handle)
  /-- The number of the next handle. -/
  next : HandleId
  /-- The counts of the managers. -/
  counts : List Nat

namespace Ledger

/-- A manager that has begun nothing. -/
def added (l : Ledger) : Ledger :=
  { l with counts := l.counts ++ [0] }

/-- A handle for a transaction that manager `m` has begun on connection `c`. -/
def opened (l : Ledger) (m : ManagerId) (id : String) (c : ConnectionId) : Ledger :=
  { handles := (l.next, Handle.opened id m c) :: l.handles
    next := l.next + 1
    counts := l.counts.modify m (· + 1) }

/-- The connection of a handle was taken from it. -/
def released (l : Ledger) (h : HandleId) (owner : ManagerId) (next : TransactionState) : Ledger :=
  { l with
    handles := l.handles.map fun entry =>
      if entry.1 = h then (entry.1, entry.2.released next) else entry
    counts := l.counts.modify owner (· - 1) }

def without (l : Ledger) (h : HandleId) : Ledger :=
  { l with handles := l.handles.filter fun entry => entry.1 != h }

/-- A handle is gone that still owned its connection. -/
def abandoned (l : Ledger) (h : HandleId) (owner : ManagerId) : Ledger :=
  { l.without h with counts := l.counts.modify owner (· - 1) }

/-- All that an operation can do to a ledger. -/
inductive Step : Gateway.Operation -> Ledger -> Ledger -> Prop where
  | kept {operation : Gateway.Operation} {l : Ledger} : Step operation l l
  | added {operation : Gateway.Operation} {l : Ledger} : Step operation l l.added
  | opened {l : Ledger} {m : ManagerId} {id : String} {c : ConnectionId}
      (known : m < l.counts.length) : Step (.begin m id) l (l.opened m id c)
  | committed {l : Ledger} {via : ManagerId} {h : HandleId} {handle : Handle} {c : ConnectionId}
      (found : l.handles.lookup h = some handle) (leased : handle.lease = some c) :
      Step (.commit via h) l (l.released h handle.owner .committed)
  | rolledBack {l : Ledger} {via : ManagerId} {h : HandleId} {handle : Handle} {c : ConnectionId}
      (found : l.handles.lookup h = some handle) (leased : handle.lease = some c) :
      Step (.rollback via h) l (l.released h handle.owner .rolledBack)
  | dropped {l : Ledger} {h : HandleId} {handle : Handle}
      (found : l.handles.lookup h = some handle) (settled : handle.lease = none) :
      Step (.drop h) l (l.without h)
  | abandoned {l : Ledger} {h : HandleId} {handle : Handle} {c : ConnectionId}
      (found : l.handles.lookup h = some handle) (leased : handle.lease = some c) :
      Step (.drop h) l (l.abandoned h handle.owner)

/-! ## Balance -/

/-- The number of active handles that a manager has begun. -/
def active (l : Ledger) (m : ManagerId) : Nat :=
  l.handles.countP fun entry => entry.2.owner == m && entry.2.isActive

/-- The state of a handle, its connection and the count of its manager are in step. -/
structure Balanced (l : Ledger) : Prop where
  /-- A number is that of one handle. -/
  distinct : (l.handles.map Prod.fst).Nodup
  /-- The next number is a new one. -/
  fresh : ∀ entry ∈ l.handles, entry.1 < l.next
  /-- A handle is active as long as it owns a connection. -/
  leased : ∀ entry ∈ l.handles, entry.2.isActive = entry.2.lease.isSome
  /-- A manager counts its active handles. -/
  counted : ∀ m, l.counts.getD m 0 = l.active m

theorem balanced_empty (next : HandleId) : Balanced ⟨[], next, []⟩ where
  distinct := List.nodup_nil
  fresh := by simp
  leased := by simp
  counted := by simp [active]

section

variable {l : Ledger} {h : HandleId} {handle : Handle} {c : ConnectionId}

theorem getD_modify (counts : List Nat) (i m : Nat) (change : Nat -> Nat)
    (reached : i < counts.length ∨ change 0 = 0) :
    (counts.modify i change).getD m 0
      = if i = m then change (counts.getD m 0) else counts.getD m 0 := by
  rw [List.getD_eq_getElem?_getD, List.getD_eq_getElem?_getD, List.getElem?_modify]
  by_cases same : i = m
  · subst same
    rcases reached with inside | zero
    · simp [List.getElem?_eq_getElem inside]
    · cases counts[i]? <;> simp [zero]
  · simp [same]

/-- The place of a handle among the others. -/
theorem Balanced.split (balanced : l.Balanced) (found : l.handles.lookup h = some handle) :
    ∃ front behind, l.handles = front ++ (h, handle) :: behind ∧
      (∀ entry ∈ front, entry.1 ≠ h) ∧ ∀ entry ∈ behind, entry.1 ≠ h := by
  obtain ⟨front, behind, placed, before⟩ := List.lookup_eq_some_iff.mp found
  have distinct := balanced.distinct
  rw [placed, List.map_append, List.map_cons, List.nodup_middle, List.nodup_cons] at distinct
  refine ⟨front, behind, placed, ?_, ?_⟩
  · intro entry member same
    exact distinct.1 (List.mem_append_left _ (List.mem_map.mpr ⟨entry, member, same⟩))
  · intro entry member same
    exact distinct.1 (List.mem_append_right _ (List.mem_map.mpr ⟨entry, member, same⟩))

theorem map_split {front behind : List (HandleId × Handle)} (change : Handle -> Handle)
    (before : ∀ entry ∈ front, entry.1 ≠ h) (after : ∀ entry ∈ behind, entry.1 ≠ h) :
    (front ++ (h, handle) :: behind).map
        (fun entry => if entry.1 = h then (entry.1, change entry.2) else entry)
      = front ++ (h, change handle) :: behind := by
  have kept : ∀ {entries : List (HandleId × Handle)}, (∀ entry ∈ entries, entry.1 ≠ h) ->
      entries.map (fun entry => if entry.1 = h then (entry.1, change entry.2) else entry)
        = entries := by
    intro entries others
    rw [List.map_congr_left fun entry member => if_neg (others entry member), List.map_id']
  rw [List.map_append, List.map_cons, kept before, kept after, if_pos rfl]

theorem filter_split {front behind : List (HandleId × Handle)}
    (before : ∀ entry ∈ front, entry.1 ≠ h) (after : ∀ entry ∈ behind, entry.1 ≠ h) :
    (front ++ (h, handle) :: behind).filter (fun entry => entry.1 != h) = front ++ behind := by
  have kept : ∀ {entries : List (HandleId × Handle)}, (∀ entry ∈ entries, entry.1 ≠ h) ->
      entries.filter (fun entry => entry.1 != h) = entries := by
    intro entries others
    exact List.filter_eq_self.mpr fun entry member => bne_iff_ne.mpr (others entry member)
  rw [List.filter_append, List.filter_cons_of_neg (by simp), kept before, kept after]

theorem Balanced.added (balanced : l.Balanced) : l.added.Balanced where
  distinct := balanced.distinct
  fresh := balanced.fresh
  leased := balanced.leased
  counted := by
    intro m
    have counted := balanced.counted m
    rw [List.getD_eq_getElem?_getD] at counted ⊢
    change (l.counts ++ [0])[m]?.getD 0 = l.active m
    rw [← counted, List.getElem?_append]
    split
    · rfl
    · rename_i outside
      rw [List.getElem?_eq_none (Nat.le_of_not_lt outside)]
      cases m - l.counts.length <;> rfl

theorem Balanced.opened (balanced : l.Balanced) (m : ManagerId) (id : String)
    (known : m < l.counts.length) : (l.opened m id c).Balanced where
  distinct := by
    refine List.nodup_cons.mpr ⟨?_, balanced.distinct⟩
    intro again
    obtain ⟨entry, member, same⟩ := List.mem_map.mp again
    exact absurd same (Nat.ne_of_lt (balanced.fresh entry member))
  fresh := by
    intro entry member
    rcases List.mem_cons.mp member with rfl | old
    · exact Nat.lt_succ_self l.next
    · exact Nat.lt_succ_of_lt (balanced.fresh entry old)
  leased := by
    intro entry member
    rcases List.mem_cons.mp member with rfl | old
    · rfl
    · exact balanced.leased entry old
  counted := by
    intro n
    change (l.counts.modify m (· + 1)).getD n 0 = List.countP _ ((_, _) :: l.handles)
    rw [getD_modify _ _ _ _ (Or.inl known), List.countP_cons, balanced.counted n]
    by_cases same : m = n
    · simp [same, active, Handle.opened, Handle.isActive]
    · simp [same, active, Handle.opened]

theorem Balanced.isActive_of_lookup (balanced : l.Balanced)
    (found : l.handles.lookup h = some handle) : handle.isActive = handle.lease.isSome := by
  obtain ⟨front, behind, placed, -, -⟩ := balanced.split found
  exact balanced.leased (h, handle) (by simp [placed])

theorem Balanced.released (balanced : l.Balanced) (found : l.handles.lookup h = some handle)
    (leased : handle.lease = some c) {next : TransactionState} (ends : next ≠ .active) :
    (l.released h handle.owner next).Balanced := by
  obtain ⟨front, behind, placed, before, after⟩ := balanced.split found
  have handles : (l.released h handle.owner next).handles
      = front ++ (h, handle.released next) :: behind := by
    rw [← map_split (Handle.released · next) before after, ← placed]
    rfl
  have active : handle.isActive = true := by
    rw [balanced.isActive_of_lookup found, leased, Option.isSome_some]
  have settled : (handle.released next).isActive = false := by
    simpa [Handle.isActive, Handle.released] using ends
  have others : ∀ entry ∈ front ++ (h, handle.released next) :: behind,
      entry = (h, handle.released next) ∨ entry ∈ l.handles := by
    intro entry member
    rw [placed]
    simp only [List.mem_append, List.mem_cons] at member ⊢
    tauto
  refine ⟨?_, ?_, ?_, ?_⟩
  · have distinct := balanced.distinct
    simpa only [handles, placed, List.map_append, List.map_cons] using distinct
  · intro entry member
    rcases others entry (handles ▸ member) with rfl | old
    · exact balanced.fresh (h, handle) (by simp [placed])
    · exact balanced.fresh entry old
  · intro entry member
    rcases others entry (handles ▸ member) with rfl | old
    · exact settled
    · exact balanced.leased entry old
  · intro m
    change (l.counts.modify handle.owner (· - 1)).getD m 0 = List.countP _ _
    rw [getD_modify _ _ _ _ (Or.inr rfl), balanced.counted m, handles]
    simp only [Ledger.active, placed, List.countP_append, List.countP_cons, active, settled]
    by_cases same : handle.owner = m
    · simp [same]
    · simp [same, Handle.released]

/-- What a smaller set of handles still has, once the counts are right. -/
theorem Balanced.of_sublist (balanced : l.Balanced) {handles : List (HandleId × Handle)}
    {counts : List Nat} (fewer : handles.Sublist l.handles)
    (counted : ∀ m, counts.getD m 0 = Ledger.active ⟨handles, l.next, counts⟩ m) :
    Balanced ⟨handles, l.next, counts⟩ where
  distinct := (fewer.map Prod.fst).nodup balanced.distinct
  fresh := fun entry member => balanced.fresh entry (fewer.subset member)
  leased := fun entry member => balanced.leased entry (fewer.subset member)
  counted := counted

/-- The active handles that a handle leaves behind. -/
theorem Balanced.active_without (balanced : l.Balanced)
    (found : l.handles.lookup h = some handle) (m : ManagerId) :
    l.active m
      = (l.without h).active m + if handle.owner == m && handle.isActive then 1 else 0 := by
  obtain ⟨front, behind, placed, before, after⟩ := balanced.split found
  have handles : (l.without h).handles = front ++ behind := by
    rw [← filter_split before after, ← placed]
    rfl
  simp only [Ledger.active, handles, placed, List.countP_append, List.countP_cons, Nat.add_assoc]

theorem Balanced.dropped (balanced : l.Balanced) (found : l.handles.lookup h = some handle)
    (settled : handle.lease = none) : (l.without h).Balanced := by
  have inactive : handle.isActive = false := by
    rw [balanced.isActive_of_lookup found, settled, Option.isSome_none]
  refine balanced.of_sublist List.filter_sublist ?_
  intro m
  rw [balanced.counted m, balanced.active_without found m, inactive, Bool.and_false]
  rfl

theorem Balanced.abandoned (balanced : l.Balanced) (found : l.handles.lookup h = some handle)
    (leased : handle.lease = some c) : (l.abandoned h handle.owner).Balanced := by
  have active : handle.isActive = true := by
    rw [balanced.isActive_of_lookup found, leased, Option.isSome_some]
  refine balanced.of_sublist List.filter_sublist ?_
  intro m
  rw [getD_modify _ _ _ _ (Or.inr rfl), balanced.counted m, balanced.active_without found m,
    active, Bool.and_true]
  by_cases same : handle.owner = m
  · simp only [same, if_true, beq_self_eq_true, Nat.add_sub_cancel]
    rfl
  · simp only [same, if_false, beq_false_of_ne same, Bool.false_eq_true]
    rfl

/-! ## Steps -/

theorem lookup_released (l : Ledger) (taken h : HandleId) (owner : ManagerId)
    (next : TransactionState) :
    (l.released taken owner next).handles.lookup h
      = if h = taken then (l.handles.lookup h).map (Handle.released · next)
        else l.handles.lookup h :=
  lookup_edit l.handles taken h (Handle.released · next)

theorem lookup_without (l : Ledger) (gone h : HandleId) :
    (l.without gone).handles.lookup h = if h = gone then none else l.handles.lookup h :=
  lookup_remove l.handles gone h

/-- Balance is kept by every step. -/
theorem Step.balanced {operation : Gateway.Operation} {before after : Ledger}
    (step : Step operation before after) (balanced : before.Balanced) : after.Balanced := by
  cases step with
  | kept => exact balanced
  | added => exact balanced.added
  | opened known => exact balanced.opened _ _ known
  | committed found leased => exact balanced.released found leased (by decide)
  | rolledBack found leased => exact balanced.released found leased (by decide)
  | dropped found settled => exact balanced.dropped found settled
  | abandoned found leased => exact balanced.abandoned found leased

/-- A handle that owns no connection is left as it is by every step that does not drop it. -/
theorem Step.lookup_of_settled {operation : Gateway.Operation} {before after : Ledger}
    (step : Step operation before after) (balanced : before.Balanced)
    (found : before.handles.lookup h = some handle) (settled : handle.lease = none)
    (retained : operation ≠ .drop h) : after.handles.lookup h = some handle := by
  -- whatever loses its connection in this step had one, so it is another handle
  have elsewhere : ∀ {other : HandleId} {holder : Handle} {d : ConnectionId},
      before.handles.lookup other = some holder -> holder.lease = some d -> h ≠ other := by
    rintro other holder d held leased rfl
    obtain rfl : handle = holder := Option.some.inj (found.symm.trans held)
    exact Option.some_ne_none d (leased.symm.trans settled)
  cases step with
  | kept => exact found
  | added => exact found
  | opened known =>
      obtain ⟨front, behind, placed, -, -⟩ := balanced.split found
      have older := balanced.fresh (h, handle) (by simp [placed])
      change List.lookup h ((before.next, _) :: before.handles) = some handle
      rw [List.lookup_cons, beq_false_of_ne (Nat.ne_of_lt older)]
      exact found
  | committed held leased =>
      exact (lookup_released _ _ _ _ _).trans ((if_neg (elsewhere held leased)).trans found)
  | rolledBack held leased =>
      exact (lookup_released _ _ _ _ _).trans ((if_neg (elsewhere held leased)).trans found)
  | dropped held leased =>
      have other : h ≠ _ := fun same => retained (congrArg Gateway.Operation.drop same.symm)
      exact (lookup_without _ _ _).trans ((if_neg other).trans found)
  | abandoned held leased =>
      exact (lookup_without _ _ _).trans ((if_neg (elsewhere held leased)).trans found)

end

end Ledger

namespace Gateway

variable {σ : Type}

def ledger (g : Gateway σ) : Ledger :=
  ⟨g.handles, g.nextHandle, g.managers.map Manager.openTransactions⟩

/-- The handles in use that a manager has begun and that are active. -/
def activeHandles (g : Gateway σ) (m : ManagerId) : List (HandleId × Handle) :=
  g.handles.filter fun entry => entry.2.owner == m && entry.2.isActive

/-! ## What operations do to the ledger -/

theorem map_modify {α β : Type} (f : α -> β) (change : α -> α) (changed : β -> β)
    (commutes : ∀ a, f (change a) = changed (f a)) (l : List α) (i : Nat) :
    (l.modify i change).map f = (l.map f).modify i changed := by
  induction l generalizing i with
  | nil => simp
  | cons a rest ih =>
      cases i with
      | zero => simp [commutes]
      | succ i => simp [ih]

@[simp] theorem ledger_withDatabase (g : Gateway σ) (s : σ) :
    (g.withDatabase s).ledger = g.ledger := rfl

@[simp] theorem ledger_withPool (g : Gateway σ) (m : ManagerId) (pool : Pool) (s : σ) :
    (g.withPool m pool s).ledger = g.ledger := by
  have counts := map_modify Manager.openTransactions (fun manager => { manager with pool := pool })
    id (fun _ => rfl) g.managers m
  rw [List.modify_id] at counts
  simp only [ledger, withPool, withDatabase, editManager, counts]

theorem ledger_begun (g : Gateway σ) (m : ManagerId) (id : String) (c : ConnectionId) :
    (g.begun m id c).ledger = g.ledger.opened m id c := by
  have counts := map_modify Manager.openTransactions Manager.opened (· + 1) (fun _ => rfl)
    g.managers m
  simp only [ledger, begun, Ledger.opened, editManager, counts]

theorem ledger_closed (g : Gateway σ) (m : ManagerId) :
    (g.editManager m Manager.closed).ledger
      = { g.ledger with counts := g.ledger.counts.modify m (· - 1) } := by
  have counts := map_modify Manager.openTransactions Manager.closed (· - 1) (fun _ => rfl)
    g.managers m
  simp only [ledger, editManager, counts]

section

variable (driver : Driver σ) (m : ManagerId) (g : Gateway σ)

@[simp] theorem ledger_acquire (toFailure : Manager -> DriverFault -> Failure) :
    (g.acquire driver m toFailure).2.ledger = g.ledger := by
  cases known : g.manager? m with
  | none => rw [acquire_of_unknown driver m g known]
  | some manager => rw [acquire_eq driver m g known, ledger_withPool]

@[simp] theorem ledger_giveBack (c : ConnectionId) :
    (g.giveBack driver m c).ledger = g.ledger := by
  cases known : g.manager? m with
  | none => rw [giveBack_of_unknown driver m g known]
  | some manager => rw [giveBack_eq driver m g known, ledger_withPool]

@[simp] theorem ledger_close : (g.close driver m).ledger = g.ledger := by
  cases known : g.manager? m with
  | none => rw [close_of_unknown driver m g known]
  | some manager => rw [close_eq driver m g known, ledger_withPool]

@[simp] theorem ledger_query (sql : String) (params : List Value) :
    (g.query driver m sql params).2.ledger = g.ledger := by
  have kept := ledger_acquire driver m g Manager.acquireFailure
  unfold query lend
  rcases acquired : g.acquire driver m Manager.acquireFailure with ⟨failure | c, lent⟩
  · rw [acquired] at kept
    exact kept
  · rw [acquired] at kept
    rw [ledger_giveBack]
    exact kept

theorem ledger_create (config : ConnectionConfig) :
    (g.create config).2.ledger = g.ledger ∨ (g.create config).2.ledger = g.ledger.added := by
  unfold create Manager.create
  cases config.pool.validate with
  | error fault => exact Or.inl rfl
  | ok _ => exact Or.inr (by simp [ledger, Ledger.added])

theorem ledger_connect (config : ConnectionConfig) :
    (g.connect driver config).2.ledger = (g.create config).2.ledger := by
  rcases connect_snd driver g config with same | ⟨m, asked⟩
  · rw [same]
  · rw [asked, ledger_query]

theorem ledger_begin (id : String) :
    Ledger.Step (.begin m id) g.ledger (g.begin driver m id).2.ledger := by
  have kept := ledger_acquire driver m g Manager.acquireFailure
  rcases begin_snd driver m g id with ⟨failure, refused⟩ | ⟨c, lent, acquired, back | begun⟩
  · rw [refused] at kept
    rw [kept]
    exact Ledger.Step.kept
  · rw [acquired] at kept
    rw [back, ledger_giveBack, ledger_withDatabase, show lent.ledger = g.ledger from kept]
    exact Ledger.Step.kept
  · rw [acquired] at kept
    rw [begun, ledger_begun, ledger_withDatabase, show lent.ledger = g.ledger from kept]
    refine Ledger.Step.opened ?_
    simpa [ledger] using manager_of_acquire acquired

variable (h : HandleId)

theorem ledger_queryWithHandle (sql : String) (params : List Value) :
    (g.queryWithHandle driver h sql params).2.ledger = g.ledger := by
  rcases queryWithHandle_snd driver g h sql params with same | ⟨handle, c, -, -, ran⟩
  · rw [same]
  · rw [ran, ledger_withDatabase]

theorem ledger_executeIn (b : Builder) : (b.executeIn driver h g).2.ledger = g.ledger := by
  rcases executeIn_snd driver g h b with same | ⟨sql, params, ran⟩
  · rw [same]
  · rw [ran, ledger_queryWithHandle]

theorem ledger_release (next : TransactionState)
    (finish : ConnectionId -> σ -> Except DriverFault Unit × σ) :
    (g.release driver next finish h).2.ledger = g.ledger
      ∨ ∃ handle c, g.ledger.handles.lookup h = some handle ∧ handle.lease = some c ∧
        (g.release driver next finish h).2.ledger = g.ledger.released h handle.owner next := by
  rcases release_snd driver g h next finish with same | ⟨handle, c, found, leased, released⟩
  · rw [same]
    exact Or.inl rfl
  · refine Or.inr ⟨handle, c, found, leased, ?_⟩
    rw [released, ledger_giveBack, ledger_withDatabase, taken, ledger_closed]
    rfl

theorem ledger_drop : Ledger.Step (.drop h) g.ledger (g.drop driver h).ledger := by
  rcases drop_eq driver g h with
    ⟨-, same⟩ | ⟨handle, found, settled, dropped⟩ | ⟨handle, c, found, leased, abandoned⟩
  · rw [same]
    exact Ledger.Step.kept
  · rw [dropped]
    exact Ledger.Step.dropped found settled
  · rw [abandoned, ledger_giveBack, ledger_withDatabase, ledger_closed]
    exact Ledger.Step.abandoned found leased

end

/-- An operation does to the ledger what `Ledger.Step` allows, whatever the database answers. -/
theorem ledger_perform (driver : Driver σ) (g : Gateway σ) (operation : Operation) :
    Ledger.Step operation g.ledger (g.perform driver operation).ledger := by
  have same : ∀ {l : Ledger}, l = g.ledger -> Ledger.Step operation g.ledger l := by
    rintro l rfl
    exact Ledger.Step.kept
  have made : ∀ {l : Ledger}, l = g.ledger ∨ l = g.ledger.added ->
      Ledger.Step operation g.ledger l := by
    rintro l (rfl | rfl)
    · exact Ledger.Step.kept
    · exact Ledger.Step.added
  cases operation with
  | create config => exact made (ledger_create g config)
  | connect config => exact made (ledger_connect driver g config ▸ ledger_create g config)
  | close m => exact same (ledger_close driver m g)
  | query m sql params => exact same (ledger_query driver m g sql params)
  | checkHealth m =>
      have asked := congrArg ledger (checkHealth_snd driver m g)
      exact same (asked.trans (ledger_query driver m g "SELECT 1" []))
  | begin m id => exact ledger_begin driver m g id
  | queryWithHandle via h sql params => exact same (ledger_queryWithHandle driver g h sql params)
  | executeIn b h => exact same (ledger_executeIn driver g h b)
  | commit via h =>
      rcases ledger_release driver g h .committed driver.commit with
        kept | ⟨handle, c, found, leased, changed⟩
      · exact same kept
      · exact changed ▸ Ledger.Step.committed found leased
  | rollback via h =>
      rcases ledger_release driver g h .rolledBack driver.rollback with
        kept | ⟨handle, c, found, leased, changed⟩
      · exact same kept
      · exact changed ▸ Ledger.Step.rolledBack found leased
  | drop h => exact ledger_drop driver g h

/-! ## Runs -/

theorem balanced_initial (start : σ) : (initial start).ledger.Balanced :=
  Ledger.balanced_empty 0

/-- Every run leaves a balanced ledger balanced. -/
theorem balanced_performAll (driver : Driver σ) {g : Gateway σ} (balanced : g.ledger.Balanced)
    (operations : List Operation) : (g.performAll driver operations).ledger.Balanced := by
  induction operations generalizing g with
  | nil => exact balanced
  | cons operation rest ih => exact ih ((ledger_perform driver g operation).balanced balanced)

/-- A handle that owns no connection stays as it is until it is dropped. -/
theorem handle?_performAll_of_settled (driver : Driver σ) {g : Gateway σ}
    (balanced : g.ledger.Balanced) {h : HandleId} {handle : Handle}
    (found : g.handle? h = some handle) (settled : handle.lease = none)
    {operations : List Operation} (retained : Operation.drop h ∉ operations) :
    (g.performAll driver operations).handle? h = some handle := by
  induction operations generalizing g with
  | nil => exact found
  | cons operation rest ih =>
      have parts := not_or.mp (mt List.mem_cons.mpr retained)
      have step := ledger_perform driver g operation
      exact ih (step.balanced balanced)
        (step.lookup_of_settled balanced found settled (Ne.symm parts.1)) parts.2

end Gateway
end SqlGate
