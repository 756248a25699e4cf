import SqlGate.Gateway.Driver

namespace SqlGate

/-!
# Recorded drivers

A driver can be watched: a recorded driver does what the driver does, and
writes down what is asked of every open connection.  The record is part of its
state, so it tells what an operation sends as well as what it changes.
-/

/-- What is asked of an open connection. -/
inductive Request where
  | execute (sql : String) (params : List Value)
  | begin
  | commit
  | rollback
  | disconnect
deriving DecidableEq

/-- A request with the connection that it is sent to. -/
structure Sent where
  connection : ConnectionId
  /-- What is asked of it. -/
  request : Request
deriving DecidableEq

/-- The requests that were sent to a connection, the earliest first. -/
def sentTo (c : ConnectionId) (record : List Sent) : List Request :=
  (record.filter fun sent => sent.connection == c).map Sent.request

namespace Driver

variable {σ : Type}

/-- Do something on a connection and write it down. -/
def noting {α : Type} (request : Request)
    (action : ConnectionId -> σ -> Except DriverFault α × σ) (c : ConnectionId)
    (s : σ × List Sent) : Except DriverFault α × σ × List Sent :=
  ((action c s.1).1, (action c s.1).2, s.2 ++ [⟨c, request⟩])

/-- The driver that writes down what it is asked. -/
def recorded (driver : Driver σ) : Driver (σ × List Sent) where
  connect := fun s => ((driver.connect s.1).1, (driver.connect s.1).2, s.2)
  disconnect := fun c s => (driver.disconnect c s.1, s.2 ++ [⟨c, .disconnect⟩])
  execute := fun c sql params =>
    noting (.execute sql params) (fun c => driver.execute c sql params) c
  begin := noting .begin driver.begin
  commit := noting .commit driver.commit
  rollback := noting .rollback driver.rollback

end Driver
end SqlGate
