import SqlGate.Gateway.Pool

namespace SqlGate

/-!
# Transaction handles

A handle owns one connection from the moment a transaction is begun until the
first commit or rollback, or until it is dropped.  Releasing it a second time
and running a statement on it after that are refused.
-/

/-- How far a handle has come. -/
inductive TransactionState where
  | active
  | committed
  | rolledBack
deriving DecidableEq, Repr

def TransactionState.display : TransactionState -> String
  | .active => "active"
  | .committed => "committed"
  | .rolledBack => "rolled back"

/-- The number of a manager. -/
abbrev ManagerId := Nat

/-- A transaction owned by a caller. -/
structure Handle where
  /-- The name of the transaction. -/
  id : String
  /-- The manager that began it. -/
  owner : ManagerId
  /-- How far it has come. -/
  state : TransactionState
  /-- The connection it owns, as long as it owns one. -/
  lease : Option ConnectionId
deriving DecidableEq, Repr

namespace Handle

/-- A handle for a transaction just begun. -/
def opened (id : String) (owner : ManagerId) (c : ConnectionId) : Handle :=
  ⟨id, owner, .active, some c⟩

/-- Whether the transaction has not been released. -/
def isActive (h : Handle) : Bool :=
  h.state == .active

/-- The failure of a call on a handle that owns no connection any more. -/
def alreadyReleased (h : Handle) : Failure :=
  .transaction ("Transaction is already " ++ h.state.display) h.id

/-- The handle once its connection was taken from it. -/
def released (h : Handle) (next : TransactionState) : Handle :=
  { h with state := next, lease := none }

end Handle
end SqlGate
