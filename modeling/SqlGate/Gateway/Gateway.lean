import SqlGate.Gateway.Manager

namespace SqlGate

/-!
# The gateway

A gateway holds the managers of a program, the handles that callers own, and
the state of the database behind them.  A handle keeps to the manager that
began it: whichever manager is asked to commit it, the connection goes back to
the pool it came from and the count of that manager goes down.
-/

/-- The number of a handle. -/
abbrev HandleId := Nat

/-- Managers, handles and the database behind them. -/
structure Gateway (σ : Type) where
  /-- The database and its connections. -/
  database : σ
  /-- The managers; the number of a manager is its place. -/
  managers : List Manager := []
  /-- The handles that were not dropped. -/
  handles : List (HandleId × Handle) := []
  /-- The number of the next handle. -/
  nextHandle : HandleId := 0

namespace Gateway

variable {σ : Type}

/-! ## Managers -/

def manager? (g : Gateway σ) (m : ManagerId) : Option Manager :=
  g.managers[m]?

def editManager (g : Gateway σ) (m : ManagerId) (change : Manager -> Manager) : Gateway σ :=
  { g with managers := g.managers.modify m change }

/-- The number of open transactions of a manager. -/
def activeTransactions (g : Gateway σ) (m : ManagerId) : Nat :=
  ((g.manager? m).map Manager.openTransactions).getD 0

def create (g : Gateway σ) (config : ConnectionConfig) : Outcome ManagerId × Gateway σ :=
  match Manager.create config with
  | .ok m => (.ok g.managers.length, { g with managers := g.managers ++ [m] })
  | .error failure => (.error failure, g)

/-! ## Connections -/

/-- Ask the pool of a manager for a connection; the failure is worded by `toFailure`. -/
def acquire (driver : Driver σ) (m : ManagerId) (toFailure : Manager -> DriverFault -> Failure)
    (g : Gateway σ) : Outcome ConnectionId × Gateway σ :=
  match g.manager? m with
  | none => (.error (.internal "Unknown manager"), g)
  | some manager =>
      match manager.pool.acquire driver g.database with
      | (.ok c, pool, s) =>
          (.ok c, { g.editManager m fun manager => { manager with pool := pool } with database := s })
      | (.error fault, pool, s) =>
          (.error (toFailure manager fault),
            { g.editManager m fun manager => { manager with pool := pool } with database := s })

/-- Give a connection back to the pool of a manager. -/
def giveBack (driver : Driver σ) (m : ManagerId) (c : ConnectionId) (g : Gateway σ) : Gateway σ :=
  match g.manager? m with
  | none => g
  | some manager =>
      let given := manager.pool.giveBack driver c g.database
      { g.editManager m fun manager => { manager with pool := given.1 } with database := given.2 }

/-- Do something on a connection of the pool, which gets it back whatever comes out. -/
def lend {α : Type} (driver : Driver σ) (m : ManagerId)
    (toFailure : Manager -> DriverFault -> Failure)
    (action : ConnectionId -> σ -> Outcome α × σ) (g : Gateway σ) : Outcome α × Gateway σ :=
  match g.acquire driver m toFailure with
  | (.error failure, g) => (.error failure, g)
  | (.ok c, g) =>
      let done := action c g.database
      (done.1, { g with database := done.2 }.giveBack driver m c)

/-- Run a statement on a connection. -/
def runOn (driver : Driver σ) (sql : String) (params : List Value) (c : ConnectionId) (s : σ) :
    Outcome QueryResult × σ :=
  match driver.execute c sql params s with
  | (.ok answer, s) => (.ok answer.toResult, s)
  | (.error fault, s) => (.error fault.toFailure, s)

/-- Run one statement on a connection of the pool. -/
def query (driver : Driver σ) (m : ManagerId) (sql : String) (params : List Value)
    (g : Gateway σ) : Outcome QueryResult × Gateway σ :=
  g.lend driver m Manager.acquireFailure (runOn driver sql params)

/-! ## Transactions -/

def handle? (g : Gateway σ) (h : HandleId) : Option Handle :=
  g.handles.lookup h

def editHandle (g : Gateway σ) (h : HandleId) (change : Handle -> Handle) : Gateway σ :=
  { g with handles :=
      g.handles.map fun entry => if entry.1 = h then (entry.1, change entry.2) else entry }

def begin (driver : Driver σ) (m : ManagerId) (id : String) (g : Gateway σ) :
    Outcome HandleId × Gateway σ :=
  match g.acquire driver m Manager.acquireFailure with
  | (.error failure, g) => (.error failure, g)
  | (.ok c, g) =>
      match driver.begin c g.database with
      | (.ok (), s) =>
          let g := { g with database := s }.editManager m Manager.opened
          (.ok g.nextHandle,
            { g with
              handles := (g.nextHandle, Handle.opened id m c) :: g.handles
              nextHandle := g.nextHandle + 1 })
      | (.error fault, s) =>
          (.error fault.toFailure, { g with database := s }.giveBack driver m c)

/-- The failure of a call on a handle that was dropped. -/
def noHandle : Failure := .internal "Unknown transaction handle"

/-- Run a statement on the connection of a handle. -/
def queryWithHandle (driver : Driver σ) (h : HandleId) (sql : String) (params : List Value)
    (g : Gateway σ) : Outcome QueryResult × Gateway σ :=
  match g.handle? h with
  | none => (.error noHandle, g)
  | some handle =>
      match handle.lease with
      | none => (.error handle.alreadyReleased, g)
      | some c =>
          let done := runOn driver sql params c g.database
          (done.1, { g with database := done.2 })

/-- End a transaction with what the driver offers; one that fails is rolled back. -/
def settle (driver : Driver σ) (finish : ConnectionId -> σ -> Except DriverFault Unit × σ)
    (c : ConnectionId) (s : σ) : Outcome Unit × σ :=
  match finish c s with
  | (.ok (), s) => (.ok (), s)
  | (.error fault, s) => (.error fault.toFailure, (driver.rollback c s).2)

/-- Take the connection from a handle, end its transaction and give the connection back. -/
def release (driver : Driver σ) (next : TransactionState)
    (finish : ConnectionId -> σ -> Except DriverFault Unit × σ) (h : HandleId) (g : Gateway σ) :
    Outcome Unit × Gateway σ :=
  match g.handle? h with
  | none => (.error noHandle, g)
  | some handle =>
      match handle.lease with
      | none => (.error handle.alreadyReleased, g)
      | some c =>
          let g := (g.editHandle h fun handle => handle.released next).editManager handle.owner
            Manager.closed
          let done := settle driver finish c g.database
          (done.1, { g with database := done.2 }.giveBack driver handle.owner c)

/-- Commit the transaction of a handle, through any manager. -/
def commit (driver : Driver σ) (_via : ManagerId) (h : HandleId) (g : Gateway σ) :
    Outcome Unit × Gateway σ :=
  g.release driver .committed driver.commit h

/-- Roll back the transaction of a handle, through any manager. -/
def rollback (driver : Driver σ) (_via : ManagerId) (h : HandleId) (g : Gateway σ) :
    Outcome Unit × Gateway σ :=
  g.release driver .rolledBack driver.rollback h

/-- Drop a handle; a transaction that it still owns is rolled back. -/
def drop (driver : Driver σ) (h : HandleId) (g : Gateway σ) : Gateway σ :=
  let rest := { g with handles := g.handles.filter fun entry => entry.1 != h }
  match g.handle? h with
  | none => g
  | some handle =>
      match handle.lease with
      | none => rest
      | some c =>
          let g := rest.editManager handle.owner Manager.closed
          { g with database := (driver.rollback c g.database).2 }.giveBack driver handle.owner c

/-! ## The server -/

/-- The statement that asks a database for its version. -/
def versionSql : DatabaseKind -> String
  | .postgres => "SELECT version() AS version"
  | .sqlite => "SELECT sqlite_version() AS version"

def versionOf? (result : QueryResult) : Option String :=
  match result.first?.bind fun row => row.get? "version" with
  | some (.text version) => some version
  | _ => none

def serverVersion (driver : Driver σ) (m : ManagerId) (kind : DatabaseKind) (g : Gateway σ) :
    Outcome String × Gateway σ :=
  match g.query driver m (versionSql kind) [] with
  | (.error failure, g) => (.error failure, g)
  | (.ok result, g) =>
      match versionOf? result with
      | some version => (.ok version, g)
      | none => (.error (.internal "Server did not report a version"), g)

/-- Add a manager and make sure that its database can be reached. -/
def connect (driver : Driver σ) (config : ConnectionConfig) (g : Gateway σ) :
    Outcome ManagerId × Gateway σ :=
  match g.create config with
  | (.error failure, g) => (.error failure, g)
  | (.ok m, g) =>
      match g.serverVersion driver m config.kind with
      | (.ok _, g) => (.ok m, g)
      | (.error failure, g) =>
          (.error (.connection ("Failed to connect: " ++ failure.message)
            (connectionSuggestion config.kind failure.message)), g)

/-- Whether the database answers. -/
def checkHealth (driver : Driver σ) (m : ManagerId) (g : Gateway σ) : Bool × Gateway σ :=
  match g.query driver m "SELECT 1" [] with
  | (.ok _, g) => (true, g)
  | (.error _, g) => (false, g)

/-- Close the pool of a manager; handles keep their connections until they are released. -/
def close (driver : Driver σ) (m : ManagerId) (g : Gateway σ) : Gateway σ :=
  match g.manager? m with
  | none => g
  | some manager =>
      let closed := manager.pool.close driver g.database
      { g.editManager m fun manager => { manager with pool := closed.1 } with
        database := closed.2 }

end Gateway
end SqlGate
