import SqlGate.Query.Terminal

namespace SqlGate
namespace Gateway

/-!
# Operations as data

What a program does with its managers and handles is a list of operations.  An
operation succeeds or fails as the database answers; either way the next one
finds the gateway that it left.
-/

/-- One operation of a program. -/
inductive Operation where
  /-- Add a manager. -/
  | create (config : ConnectionConfig)
  /-- Add a manager and make sure that its database can be reached. -/
  | connect (config : ConnectionConfig)
  /-- Close the pool of a manager. -/
  | close (m : ManagerId)
  /-- Run a statement on a connection of the pool. -/
  | query (m : ManagerId) (sql : String) (params : List Value)
  /-- Ask whether the database answers. -/
  | checkHealth (m : ManagerId)
  /-- Begin a transaction. -/
  | begin (m : ManagerId) (id : String)
  /-- Run a statement on the connection of a handle. -/
  | queryWithHandle (via : ManagerId) (h : HandleId) (sql : String) (params : List Value)
  /-- Run the statement of a builder on the connection of a handle. -/
  | executeIn (b : Builder) (h : HandleId)
  /-- Commit the transaction of a handle. -/
  | commit (via : ManagerId) (h : HandleId)
  /-- Roll back the transaction of a handle. -/
  | rollback (via : ManagerId) (h : HandleId)
  | drop (h : HandleId)

def Operation.handle? : Operation -> Option HandleId
  | .queryWithHandle _ h _ _ => some h
  | .executeIn _ h => some h
  | .commit _ h => some h
  | .rollback _ h => some h
  | .drop h => some h
  | _ => none

variable {σ : Type}

def perform (driver : Driver σ) (g : Gateway σ) : Operation -> Gateway σ
  | .create config => (g.create config).2
  | .connect config => (g.connect driver config).2
  | .close m => g.close driver m
  | .query m sql params => (g.query driver m sql params).2
  | .checkHealth m => (g.checkHealth driver m).2
  | .begin m id => (g.begin driver m id).2
  | .queryWithHandle _ h sql params => (g.queryWithHandle driver h sql params).2
  | .executeIn b h => (b.executeIn driver h g).2
  | .commit via h => (g.commit driver via h).2
  | .rollback via h => (g.rollback driver via h).2
  | .drop h => g.drop driver h

def performAll (driver : Driver σ) (g : Gateway σ) (operations : List Operation) : Gateway σ :=
  operations.foldl (perform driver) g

def initial (database : σ) : Gateway σ :=
  { database := database }

end Gateway
end SqlGate
