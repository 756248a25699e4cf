import SqlGate.Proofs.Gateway.Lending

namespace SqlGate

/-!
# Traffic on the connection of a handle

Since connections stay apart, the record of a gateway tells who uses them: a
connection that a handle owns hears of this handle only.  Statements on the
pools, other transactions, managers that are closed and handles that are
dropped leave no trace on it.
-/

theorem sentTo_append_of_ne {c d : ConnectionId} (different : d ≠ c) (record : List Sent)
    (request : Request) : sentTo c (record ++ [⟨d, request⟩]) = sentTo c record := by
  have other : (d == c) = false := beq_false_of_ne different
  simp only [sentTo, List.filter_append, List.filter_cons, List.filter_nil, other,
    Bool.false_eq_true, if_false, List.append_nil]

namespace Gateway

variable {σ : Type} {driver : Driver σ} {g : Gateway (σ × List Sent)} {c d : ConnectionId}

/-! ## Parts -/

/-- Looking for a connection sends nothing on those that are open. -/
theorem record_acquire (driver : Driver σ) (g : Gateway (σ × List Sent)) (m : ManagerId)
    (toFailure : Manager -> DriverFault -> Failure) :
    (g.acquire driver.recorded m toFailure).2.database.2 = g.database.2 := by
  cases known : g.manager? m with
  | none => rw [acquire_of_unknown driver.recorded m g known]
  | some manager =>
      rw [acquire_eq driver.recorded m g known]
      change (manager.pool.acquire driver.recorded g.database).2.2.2 = g.database.2
      rcases acquired : manager.pool.acquire driver.recorded g.database with ⟨outcome, pool, s⟩
      have lends := manager.pool.lends driver.recorded g.database
      rw [acquired] at lends
      cases lends with
      | idle => rfl
      | opened c connected => exact congrArg (fun answer => answer.2.2) connected.symm
      | refused => rfl
      | unreachable failed => exact congrArg (fun answer => answer.2.2) failed.symm

theorem sentTo_giveBack (different : d ≠ c) (m : ManagerId) :
    sentTo c (g.giveBack driver.recorded m d).database.2 = sentTo c g.database.2 := by
  cases known : g.manager? m with
  | none => rw [giveBack_of_unknown driver.recorded m g known]
  | some manager =>
      rw [giveBack_eq driver.recorded m g known]
      change sentTo c (manager.pool.giveBack driver.recorded d g.database).2.2 = _
      unfold Pool.giveBack
      by_cases closed : manager.pool.isClosed = true
      · simp only [closed, if_true]
        exact sentTo_append_of_ne different g.database.2 .disconnect
      · simp only [closed]
        rfl

theorem sentTo_settle {finish : ConnectionId -> σ -> Except DriverFault Unit × σ}
    (different : d ≠ c) (request : Request) (s : σ × List Sent) :
    sentTo c (settle driver.recorded (Driver.noting request finish) d s).2.2 = sentTo c s.2 := by
  unfold settle
  have finished := sentTo_append_of_ne different s.2 request
  rcases ended : Driver.noting request finish d s with ⟨fault | _, after⟩
  · have record : after.2 = s.2 ++ [⟨d, request⟩] := congrArg (fun done => done.2.2) ended.symm
    rw [← record] at finished
    exact (sentTo_append_of_ne different after.2 .rollback).trans finished
  · have record : after.2 = s.2 ++ [⟨d, request⟩] := congrArg (fun done => done.2.2) ended.symm
    rw [← record] at finished
    exact finished

theorem sentTo_disconnect (idle : List ConnectionId) (s : σ × List Sent) (absent : c ∉ idle) :
    sentTo c (idle.foldl (fun s d => driver.recorded.disconnect d s) s).2 = sentTo c s.2 := by
  induction idle generalizing s with
  | nil => rfl
  | cons d rest ih =>
      have parts := not_or.mp (mt List.mem_cons.mpr absent)
      rw [List.foldl_cons, ih _ parts.2]
      exact sentTo_append_of_ne (Ne.symm parts.1) s.2 .disconnect

/-! ## Operations -/

section

variable {issued : σ × List Sent -> ConnectionId -> Prop} {g lent : Gateway (σ × List Sent)}

/-- What a handle owns is not in hand. -/
theorem Apart.ne_of_mem_leases (apart : g.Apart issued [d]) (owned : c ∈ g.leases) : d ≠ c := by
  rintro rfl
  have once := apart.once d
  have held := List.count_pos_iff.mpr owned
  rw [holders, List.count_singleton_self] at once
  omega

theorem Apart.notMem_idle (apart : g.Apart issued []) (owned : c ∈ g.leases) : c ∉ g.idle := by
  intro waiting
  have once := apart.once c
  have held := List.count_pos_iff.mpr owned
  have idle := List.count_pos_iff.mpr waiting
  rw [holders] at once
  omega

theorem leases_of_ledger (same : lent.ledger = g.ledger) : lent.leases = g.leases :=
  congrArg (fun l => l.handles.filterMap fun entry => entry.2.lease) same

/-- Adding a manager asks nothing of the database and takes nothing from a handle. -/
theorem create_snd (g : Gateway (σ × List Sent)) (config : ConnectionConfig) :
    (g.create config).2.database = g.database ∧ (g.create config).2.handles = g.handles := by
  unfold create
  cases Manager.create config with
  | error failure => exact ⟨rfl, rfl⟩
  | ok manager => exact ⟨rfl, rfl⟩

variable (numbers : driver.recorded.NumbersApart issued) (apart : g.Apart issued [])
  (owned : c ∈ g.leases)

include numbers apart owned

/-- What is lent is not what a handle owns. -/
theorem Apart.ne_of_acquire {m : ManagerId} {toFailure : Manager -> DriverFault -> Failure}
    (acquired : g.acquire driver.recorded m toFailure = (.ok d, lent)) : d ≠ c := by
  have inHand := apart.acquire numbers m toFailure
  have kept := ledger_acquire driver.recorded m g toFailure
  rw [acquired] at inHand kept
  exact inHand.ne_of_mem_leases (leases_of_ledger kept ▸ owned)

theorem sentTo_query (m : ManagerId) (sql : String) (params : List Value) :
    sentTo c (g.query driver.recorded m sql params).2.database.2 = sentTo c g.database.2 := by
  have quiet := record_acquire driver g m Manager.acquireFailure
  unfold Gateway.query lend
  rcases acquired : g.acquire driver.recorded m Manager.acquireFailure with ⟨failure | d, lent⟩
  · rw [acquired] at quiet
    exact congrArg (sentTo c) quiet
  · rw [acquired] at quiet
    have different := Apart.ne_of_acquire numbers apart owned acquired
    refine (sentTo_giveBack different m).trans ?_
    rw [runOn_snd]
    refine (sentTo_append_of_ne different lent.database.2 (.execute sql params)).trans ?_
    exact congrArg (sentTo c) quiet

theorem sentTo_connect (config : ConnectionConfig) :
    sentTo c (g.connect driver.recorded config).2.database.2 = sentTo c g.database.2 := by
  have made := create_snd g config
  have quiet : sentTo c (g.create config).2.database.2 = sentTo c g.database.2 :=
    congrArg (fun s => sentTo c s.2) made.1
  rcases connect_snd driver.recorded g config with same | ⟨m, asked⟩
  · rw [same]
    exact quiet
  · rw [asked]
    have still : c ∈ (g.create config).2.leases := by
      rw [leases, made.2]
      exact owned
    exact (sentTo_query numbers (apart.create config) still m _ []).trans quiet

omit numbers in
theorem sentTo_close (m : ManagerId) :
    sentTo c (g.close driver.recorded m).database.2 = sentTo c g.database.2 := by
  cases known : g.manager? m with
  | none => rw [close_of_unknown driver.recorded m g known]
  | some manager =>
      rw [close_eq driver.recorded m g known]
      refine sentTo_disconnect manager.pool.idle g.database fun waiting => ?_
      have member : manager ∈ g.managers := List.mem_of_getElem? known
      exact apart.notMem_idle owned (List.mem_flatMap.mpr ⟨manager, member, waiting⟩)

theorem sentTo_begin (m : ManagerId) (id : String) :
    sentTo c (g.begin driver.recorded m id).2.database.2 = sentTo c g.database.2 := by
  have quiet := record_acquire driver g m Manager.acquireFailure
  rcases begin_snd driver.recorded m g id with
    ⟨failure, refused⟩ | ⟨d, lent, acquired, back | begun⟩
  · rw [refused] at quiet
    exact congrArg (sentTo c) quiet
  · rw [acquired] at quiet
    have different := Apart.ne_of_acquire numbers apart owned acquired
    rw [back]
    refine (sentTo_giveBack different m).trans ?_
    exact (sentTo_append_of_ne different lent.database.2 .begin).trans (congrArg (sentTo c) quiet)
  · rw [acquired] at quiet
    have different := Apart.ne_of_acquire numbers apart owned acquired
    rw [begun]
    exact (sentTo_append_of_ne different lent.database.2 .begin).trans (congrArg (sentTo c) quiet)

end

/-! ## Handles -/

section

variable {issued : σ × List Sent -> ConnectionId -> Prop} {h other : HandleId}
  {handle holder : Handle}

theorem mem_leases {g : Gateway σ} (found : g.handle? h = some handle)
    (leased : handle.lease = some c) : c ∈ g.leases := by
  obtain ⟨front, behind, placed, -⟩ := List.lookup_eq_some_iff.mp found
  refine List.mem_filterMap.mpr ⟨(h, handle), ?_, leased⟩
  rw [placed]
  exact List.mem_append_right _ (List.mem_cons_self ..)

/-- Two handles own two connections. -/
theorem Apart.lease_ne {σ : Type} {g : Gateway σ} {issued : σ -> ConnectionId -> Prop}
    (apart : g.Apart issued []) (balanced : g.ledger.Balanced)
    (found : g.handle? h = some handle) (leased : handle.lease = some c)
    (held : g.handle? other = some holder) (lent : holder.lease = some d)
    (different : other ≠ h) : d ≠ c := by
  rintro rfl
  -- were they the same, it would still be held once the other handle is gone
  have left : (g.without other).handle? h = some handle :=
    (Ledger.lookup_without g.ledger other h).trans ((if_neg (Ne.symm different)).trans found)
  have still := List.count_pos_iff.mpr (mem_leases left leased)
  have parts := holders_without balanced held d
  have once := apart.once d
  rw [lent, Option.toList, List.count_singleton_self, holders] at parts
  omega

variable (apart : g.Apart issued []) (balanced : g.ledger.Balanced)
  (found : g.handle? h = some handle) (leased : handle.lease = some c) (different : other ≠ h)

include apart balanced found leased different

theorem sentTo_queryWithHandle (sql : String) (params : List Value) :
    sentTo c (g.queryWithHandle driver.recorded other sql params).2.database.2
      = sentTo c g.database.2 := by
  rcases queryWithHandle_snd driver.recorded g other sql params with
    same | ⟨holder, d, held, lent, ran⟩
  · rw [same]
  · rw [ran]
    have apartFrom := apart.lease_ne balanced found leased held lent different
    exact sentTo_append_of_ne apartFrom g.database.2 (.execute sql params)

theorem sentTo_executeIn (b : Builder) :
    sentTo c (b.executeIn driver.recorded other g).2.database.2 = sentTo c g.database.2 := by
  rcases executeIn_snd driver.recorded g other b with same | ⟨sql, params, ran⟩
  · rw [same]
  · rw [ran]
    exact sentTo_queryWithHandle apart balanced found leased different sql params

theorem sentTo_release (next : TransactionState) (request : Request)
    (finish : ConnectionId -> σ -> Except DriverFault Unit × σ) :
    sentTo c (g.release driver.recorded next (Driver.noting request finish) other).2.database.2
      = sentTo c g.database.2 := by
  rcases release_snd driver.recorded g other next (Driver.noting request finish) with
    same | ⟨holder, d, held, lent, released⟩
  · rw [same]
  · rw [released]
    have apartFrom := apart.lease_ne balanced found leased held lent different
    refine (sentTo_giveBack apartFrom holder.owner).trans ?_
    exact sentTo_settle apartFrom request g.database

theorem sentTo_drop :
    sentTo c (g.drop driver.recorded other).database.2 = sentTo c g.database.2 := by
  rcases drop_eq driver.recorded g other with
    ⟨-, same⟩ | ⟨holder, -, -, dropped⟩ | ⟨holder, d, held, lent, abandoned⟩
  · rw [same]
  · rw [dropped]
    rfl
  · rw [abandoned]
    have apartFrom := apart.lease_ne balanced found leased held lent different
    refine (sentTo_giveBack apartFrom holder.owner).trans ?_
    exact sentTo_append_of_ne apartFrom g.database.2 .rollback

end

/-- An operation that is not given a handle sends nothing on the connection of that handle. -/
theorem sentTo_perform {issued : σ × List Sent -> ConnectionId -> Prop}
    (numbers : driver.recorded.NumbersApart issued) (apart : g.Apart issued [])
    (balanced : g.ledger.Balanced) {h : HandleId} {handle : Handle}
    (found : g.handle? h = some handle) (leased : handle.lease = some c) {operation : Operation}
    (elsewhere : operation.handle? ≠ some h) :
    sentTo c (g.perform driver.recorded operation).database.2 = sentTo c g.database.2 := by
  have owned := mem_leases found leased
  cases operation with
  | create config =>
      exact congrArg (fun s : σ × List Sent => sentTo c s.2) (create_snd g config).1
  | connect config => exact sentTo_connect numbers apart owned config
  | close m => exact sentTo_close apart owned m
  | query m sql params => exact sentTo_query numbers apart owned m sql params
  | checkHealth m =>
      change sentTo c (g.checkHealth driver.recorded m).2.database.2 = _
      rw [checkHealth_snd]
      exact sentTo_query numbers apart owned m "SELECT 1" []
  | begin m id => exact sentTo_begin numbers apart owned m id
  | queryWithHandle via other sql params =>
      have different : other ≠ h := fun same => elsewhere (congrArg some same)
      exact sentTo_queryWithHandle apart balanced found leased different sql params
  | executeIn b other =>
      have different : other ≠ h := fun same => elsewhere (congrArg some same)
      exact sentTo_executeIn apart balanced found leased different b
  | commit via other =>
      have different : other ≠ h := fun same => elsewhere (congrArg some same)
      exact sentTo_release apart balanced found leased different .committed .commit driver.commit
  | rollback via other =>
      have different : other ≠ h := fun same => elsewhere (congrArg some same)
      exact sentTo_release apart balanced found leased different .rolledBack .rollback
        driver.rollback
  | drop other =>
      have different : other ≠ h := fun same => elsewhere (congrArg some same)
      exact sentTo_drop apart balanced found leased different

end Gateway
end SqlGate
