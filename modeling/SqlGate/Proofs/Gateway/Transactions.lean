import SqlGate.Proofs.Embedded.Connections
import SqlGate.Proofs.Gateway.Traffic

namespace SqlGate

/-!
# Transactions in step

A program may begin transactions on any number of managers, run statements in
them, end them through any manager and drop handles, in any order, and the
database may fail at every turn.  `Gateway.InStep` is what can be relied on
after each call: counts and handles agree, a handle is active as long as it
owns a connection, that connection is its own, and a handle that was released
once refuses everything from then on.

That it holds after every run combines three invariants.  The ledger gives the
counts, the connections that stay apart give the exclusion, and what a settled
handle refuses is read off the operations.
-/

namespace Gateway

variable {σ : Type}

/-- All that a handle is still good for is to be dropped: everything else fails, and nothing is
changed or sent. -/
structure Refuses (driver : Driver σ) (g : Gateway σ) (h : HandleId) (failure : Failure) :
    Prop where
  query : ∀ sql params, g.queryWithHandle driver h sql params = (.error failure, g)
  /-- A builder is compiled first, so its own failure comes first. -/
  uncompiled : ∀ (b : Builder) fault, b.build = .error fault ->
    b.executeIn driver h g = (.error fault.toFailure, g)
  compiled : ∀ (b : Builder) statement, b.build = .ok statement ->
    b.executeIn driver h g = (.error failure, g)
  commit : ∀ via, g.commit driver via h = (.error failure, g)
  rollback : ∀ via, g.rollback driver via h = (.error failure, g)

/-- The handles of a gateway agree with its counts, its connections and its record. -/
structure InStep (driver : Driver σ) (g : Gateway (σ × List Sent)) : Prop where
  /-- A manager counts its active handles. -/
  counted : ∀ m, g.activeTransactions m = (g.activeHandles m).length
  /-- A handle is active as long as it owns a connection. -/
  owning : ∀ h handle, g.handle? h = some handle -> handle.isActive = handle.lease.isSome
  /-- A count that can still go down is not zero. -/
  positive : ∀ h handle, g.handle? h = some handle -> handle.isActive = true ->
    0 < g.activeTransactions handle.owner
  /-- The first commit ends the transaction, whatever the database answers. -/
  committed : ∀ via h handle, g.handle? h = some handle -> handle.isActive = true ->
    (g.commit driver.recorded via h).2.handle? h = some (handle.released .committed)
  /-- So does the first rollback. -/
  rolledBack : ∀ via h handle, g.handle? h = some handle -> handle.isActive = true ->
    (g.rollback driver.recorded via h).2.handle? h = some (handle.released .rolledBack)
  /-- A handle that was released refuses everything, -/
  refused : ∀ h handle, g.handle? h = some handle -> handle.isActive = false ->
    g.Refuses driver.recorded h
      (.transaction ("Transaction is already " ++ handle.state.display) handle.id)
  /-- and nothing brings it back. -/
  final : ∀ h handle, g.handle? h = some handle -> handle.isActive = false ->
    ∀ later, Operation.drop h ∉ later ->
      (g.performAll driver.recorded later).handle? h = some handle
  /-- A handle that is dropped is gone, the others stay, and a transaction that it still owned counts
  no more. -/
  dropped : ∀ h handle, g.handle? h = some handle ->
    (∀ other, (g.drop driver.recorded h).handle? other
        = if other = h then none else g.handle? other) ∧
      ∀ m, g.activeTransactions m
        = (g.drop driver.recorded h).activeTransactions m
          + if handle.owner == m && handle.isActive then 1 else 0
  /-- The connection of a handle is used through this handle only. -/
  exclusive : ∀ issued, driver.NumbersApart issued ->
    ∀ h handle c, g.handle? h = some handle -> handle.lease = some c ->
      (∀ other holder, g.handle? other = some holder -> holder.lease = some c -> other = h) ∧
      ∀ operation : Operation, operation.handle? ≠ some h ->
        sentTo c (g.perform driver.recorded operation).database.2 = sentTo c g.database.2

section

variable {g : Gateway σ} {h : HandleId} {handle : Handle}

/-! ## Counts -/

theorem activeTransactions_eq (balanced : g.ledger.Balanced) (m : ManagerId) :
    g.activeTransactions m = (g.activeHandles m).length := by
  have counted := balanced.counted m
  rw [List.getD_eq_getElem?_getD] at counted
  change ((g.managers.map Manager.openTransactions)[m]?).getD 0 = _ at counted
  rw [List.getElem?_map] at counted
  rw [activeHandles, ← List.countP_eq_length_filter]
  exact counted

/-- What is dropped is gone, whether it still owned a connection or not. -/
theorem handles_drop (driver : Driver σ) (found : g.handle? h = some handle) :
    (g.drop driver h).handles = (g.without h).handles := by
  change (g.drop driver h).ledger.handles = _
  rcases drop_eq driver g h with
    ⟨unknown, -⟩ | ⟨holder, -, -, settled⟩ | ⟨holder, c, -, -, abandoned⟩
  · rw [found] at unknown
    cases unknown
  · rw [settled]
    rfl
  · rw [abandoned, ledger_giveBack, ledger_withDatabase, ledger_closed]
    rfl

theorem handle?_drop (driver : Driver σ) (found : g.handle? h = some handle) (other : HandleId) :
    (g.drop driver h).handle? other = if other = h then none else g.handle? other := by
  rw [handle?, handles_drop driver found]
  exact lookup_remove g.handles h other

/-- Dropping a handle takes it from the count of its owner if it was active. -/
theorem activeTransactions_drop (driver : Driver σ) (balanced : g.ledger.Balanced)
    (found : g.handle? h = some handle) (m : ManagerId) :
    g.activeTransactions m
      = (g.drop driver h).activeTransactions m
        + if handle.owner == m && handle.isActive then 1 else 0 := by
  have after := (ledger_drop driver g h).balanced balanced
  rw [activeTransactions_eq balanced, activeTransactions_eq after, activeHandles, activeHandles,
    handles_drop driver found, ← List.countP_eq_length_filter, ← List.countP_eq_length_filter]
  exact balanced.active_without found m

theorem activeTransactions_pos (balanced : g.ledger.Balanced) (found : g.handle? h = some handle)
    (active : handle.isActive = true) : 0 < g.activeTransactions handle.owner := by
  obtain ⟨front, behind, placed, -⟩ := List.lookup_eq_some_iff.mp found
  rw [activeTransactions_eq balanced]
  refine List.length_pos_of_mem (a := (h, handle)) (List.mem_filter.mpr ⟨?_, ?_⟩)
  · rw [placed]
    exact List.mem_append_right _ (List.mem_cons_self ..)
  · simp [active]

/-! ## The end of a transaction -/

variable (driver : Driver σ) (next : TransactionState)
  (finish : ConnectionId -> σ -> Except DriverFault Unit × σ)

/-- The first release ends the transaction, whatever the database answers. -/
theorem handle?_release (balanced : g.ledger.Balanced) (found : g.handle? h = some handle)
    (active : handle.isActive = true) :
    (g.release driver next finish h).2.handle? h = some (handle.released next) := by
  have owning := balanced.isActive_of_lookup found
  rw [active] at owning
  obtain ⟨c, leased⟩ := Option.isSome_iff_exists.mp owning.symm
  have released : (g.release driver next finish h).2.ledger
      = g.ledger.released h handle.owner next := by
    rw [release_of_lease driver g h next finish found leased, ledger_giveBack,
      ledger_withDatabase, taken, ledger_closed]
    rfl
  have held : g.ledger.handles.lookup h = some handle := found
  change (g.release driver next finish h).2.ledger.handles.lookup h = some (handle.released next)
  rw [released, Ledger.lookup_released, if_pos rfl, held, Option.map_some]

theorem lease_of_inactive (balanced : g.ledger.Balanced) (found : g.handle? h = some handle)
    (inactive : handle.isActive = false) : handle.lease = none := by
  have owning := balanced.isActive_of_lookup found
  cases leased : handle.lease with
  | none => rfl
  | some c =>
      rw [inactive, leased] at owning
      cases owning

theorem refuses_of_settled (found : g.handle? h = some handle) (settled : handle.lease = none) :
    g.Refuses driver h handle.alreadyReleased where
  query := queryWithHandle_of_settled driver g h found settled
  uncompiled := by
    intro b fault failed
    rw [Builder.executeIn, failed]
  compiled := by
    intro b statement built
    rw [Builder.executeIn, built]
    exact queryWithHandle_of_settled driver g h found settled statement.sql statement.params
  commit := fun _ => release_of_settled driver g h .committed driver.commit found settled
  rollback := fun _ => release_of_settled driver g h .rolledBack driver.rollback found settled

end

end Gateway

/-! ## The embedded engine -/

namespace Embedded
namespace Engine

/-- The embedded engine numbers its connections one after another. -/
theorem numbersApart : driver.NumbersApart fun engine c => c < engine.next where
  fresh := by
    intro engine after c opened
    change engine.connect = (.ok c, after) at opened
    unfold connect at opened
    by_cases unreachable : (engine.location == .unreachable) = true
    · rw [if_pos unreachable] at opened
      cases opened
    · rw [if_neg unreachable] at opened
      cases opened
      exact ⟨Nat.lt_irrefl engine.next, Nat.lt_succ_self engine.next⟩
  connect := by
    intro engine c known
    change c < engine.connect.2.next
    unfold connect
    by_cases unreachable : (engine.location == .unreachable) = true
    · rw [if_pos unreachable]
      exact known
    · rw [if_neg unreachable]
      exact Nat.lt_succ_of_lt known
  disconnect := fun _ known => known
  execute := fun d _ _ known => Nat.lt_of_lt_of_eq known (next_within d _ _).symm
  begin := fun d known => Nat.lt_of_lt_of_eq known (next_within d _ _).symm
  commit := fun d known => Nat.lt_of_lt_of_eq known (next_within d _ _).symm
  rollback := fun d known => Nat.lt_of_lt_of_eq known (next_within d _ _).symm

end Engine
end Embedded

namespace Gateway

/-! ## Every run -/

/-- Handles, counts, connections and the record are in step after every run, for every driver:
managers may be added and closed, statements run, and transactions begun, used, ended through any
manager and dropped in any order. -/
theorem inStep_of_run {σ : Type} (driver : Driver σ) (start : σ) (operations : List Operation) :
    ((initial (start, [])).performAll driver.recorded operations).InStep driver := by
  have balanced : ((initial (start, [])).performAll driver.recorded operations).ledger.Balanced :=
    balanced_performAll driver.recorded (balanced_initial (start, [])) operations
  refine ⟨activeTransactions_eq balanced, ?_, ?_, ?_, ?_, ?_, ?_, ?_, ?_⟩
  · intro h handle found
    exact balanced.isActive_of_lookup found
  · intro h handle found active
    exact activeTransactions_pos balanced found active
  · intro via h handle found active
    exact handle?_release driver.recorded .committed driver.recorded.commit balanced found active
  · intro via h handle found active
    exact handle?_release driver.recorded .rolledBack driver.recorded.rollback balanced found active
  · intro h handle found inactive
    exact refuses_of_settled driver.recorded found (lease_of_inactive balanced found inactive)
  · intro h handle found inactive later retained
    have settled := lease_of_inactive balanced found inactive
    exact handle?_performAll_of_settled driver.recorded balanced found settled retained
  · intro h handle found
    exact ⟨handle?_drop driver.recorded found,
      activeTransactions_drop driver.recorded balanced found⟩
  · intro issued numbers h handle c found leased
    have apart := (apart_initial (fun s => issued s.1) (start, [])).performAll
      numbers.recorded (balanced_initial (start, [])) operations
    refine ⟨?_, ?_⟩
    · intro other holder held lent
      by_contra different
      exact apart.lease_ne balanced found leased held lent different rfl
    · intro operation elsewhere
      exact sentTo_perform numbers.recorded apart balanced found leased elsewhere

/-- Two managers begin a transaction each.  The first is committed through the second, and one begun
after it is dropped. -/
def committedThroughAnother : Gateway (Embedded.Engine × List Sent) :=
  (initial ({ location := .file }, [])).performAll Embedded.Engine.driver.recorded
    [.create (.sqlite "a.db"), .create (.sqlite "b.db"), .begin 0 "tx_a", .begin 1 "tx_b",
      .commit 1 0, .begin 0 "tx_c", .drop 2]

theorem inStep_of_committedThroughAnother :
    committedThroughAnother.activeTransactions 0 = 0 ∧
    committedThroughAnother.activeTransactions 1 = 1 ∧
    0 < committedThroughAnother.activeTransactions 1 ∧
    committedThroughAnother.Refuses Embedded.Engine.driver.recorded 0
      (.transaction "Transaction is already committed" "tx_a") ∧
    (committedThroughAnother.drop Embedded.Engine.driver.recorded 1).handle? 1 = none ∧
    (committedThroughAnother.drop Embedded.Engine.driver.recorded 1).activeTransactions 1 = 0 ∧
    sentTo 1 (committedThroughAnother.perform Embedded.Engine.driver.recorded
        (.query 1 "SELECT 1" [])).database.2
      = [.begin] := by
  have inStep := inStep_of_run Embedded.Engine.driver { location := .file }
    [.create (.sqlite "a.db"), .create (.sqlite "b.db"), .begin 0 "tx_a", .begin 1 "tx_b",
      .commit 1 0, .begin 0 "tx_c", .drop 2]
  have first : committedThroughAnother.handle? 0 = some ⟨"tx_a", 0, .committed, none⟩ := by
    decide +kernel
  have second : committedThroughAnother.handle? 1 = some ⟨"tx_b", 1, .active, some 1⟩ := by
    decide +kernel
  have noneActive : (committedThroughAnother.activeHandles 0).length = 0 := by decide +kernel
  have oneActive : (committedThroughAnother.activeHandles 1).length = 1 := by decide +kernel
  have sent : sentTo 1 committedThroughAnother.database.2 = [.begin] := by decide +kernel
  have counted := (inStep.counted 1).trans oneActive
  have gone := inStep.dropped 1 _ second
  refine ⟨(inStep.counted 0).trans noneActive, counted, ?_, ?_, gone.1 1, ?_, ?_⟩
  · exact inStep.positive 1 _ second rfl
  · exact inStep.refused 0 _ first rfl
  · exact Nat.succ.inj ((gone.2 1).symm.trans counted)
  · exact ((inStep.exclusive _ Embedded.Engine.numbersApart 1 _ 1 second rfl).2
      (.query 1 "SELECT 1" []) (by intro given; cases given)).trans sent

end Gateway
end SqlGate
