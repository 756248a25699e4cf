import SqlGate.Catalog.Inspector
import SqlGate.Embedded.Decode
import SqlGate.Embedded.Records
import SqlGate.Embedded.Session

namespace SqlGate
namespace Embedded

/-!
# The embedded engine

Connections to an embedded database: those to a file share it, each of those to
memory has a database of its own.  The first transaction of a connection is one
of its database, and every further one inside it a savepoint.
-/

/-- Where a database is. -/
inductive Location where
  | memory
  | file
  | unreachable
deriving DecidableEq, Repr

/-- A connection. -/
structure Connection where
  session : Session := {}
  /-- Its own database, if it is one in memory. -/
  own : Database := {}
  /-- How many transactions are begun inside each other. -/
  depth : Nat := 0

/-- A database with its connections. -/
structure Engine where
  /-- Where the database is. -/
  location : Location
  /-- The database of a file. -/
  shared : Database := {}
  /-- The open connections. -/
  connections : List (ConnectionId × Connection) := []
  /-- The number of the next connection. -/
  next : ConnectionId := 0

namespace Engine

def connect (engine : Engine) : Except DriverFault ConnectionId × Engine :=
  if engine.location == .unreachable then (.error Fault.cannotOpen.toDriverFault, engine)
  else
    (.ok engine.next,
      { engine with
        connections := (engine.next, {}) :: engine.connections
        next := engine.next + 1 })

def disconnect (c : ConnectionId) (engine : Engine) : Engine :=
  { engine with connections := engine.connections.filter fun entry => entry.1 != c }

def workspace (engine : Engine) (connection : Connection) : Workspace :=
  ⟨connection.session,
    if engine.location == .memory then connection.own else engine.shared⟩

/-- Put a workspace back. -/
def store (engine : Engine) (c : ConnectionId) (connection : Connection) (w : Workspace) :
    Engine :=
  let connection :=
    { connection with
      session := w.session
      own := if engine.location == .memory then w.kept else connection.own }
  { engine with
    shared := if engine.location == .memory then engine.shared else w.kept
    connections := engine.connections.map fun entry =>
      if entry.1 = c then (c, connection) else entry }

/-- Do something in the workspace of a connection. -/
def within {α : Type} (c : ConnectionId)
    (action : Connection -> Workspace -> Except DriverFault α × Connection × Workspace)
    (engine : Engine) : Except DriverFault α × Engine :=
  match engine.connections.lookup c with
  | none => (.error .workerCrashed, engine)
  | some connection =>
      let done := action connection (engine.workspace connection)
      (done.1, engine.store c done.2.1 done.2.2)

def execute (c : ConnectionId) (sql : String) (values : List Value) :
    Engine -> Except DriverFault Answer × Engine :=
  within c fun connection w =>
    let done := w.runText sql values
    (done.1.map fun result => ⟨result.tables.flatMap ResultTable.decode, result.affected⟩,
      connection, done.2)

/-- The name of the savepoint of a transaction inside others. -/
def savepointName (depth : Nat) : String :=
  "_savepoint_" ++ String.ofList (Text.ofNat depth)

/-- Change the depth of transactions if an action on the workspace succeeds. -/
def deepen (connection : Connection) (w : Workspace) (depth : Nat)
    (changed : Except Fault Workspace) : Except DriverFault Unit × Connection × Workspace :=
  match changed with
  | .ok next => (.ok (), { connection with depth := depth }, next)
  | .error fault => (.error fault.toDriverFault, connection, w)

def begin (c : ConnectionId) : Engine -> Except DriverFault Unit × Engine :=
  within c fun connection w =>
    deepen connection w (connection.depth + 1)
      (if connection.depth = 0 then w.begin else .ok (w.savepoint (savepointName connection.depth)))

def commit (c : ConnectionId) : Engine -> Except DriverFault Unit × Engine :=
  within c fun connection w =>
    match connection.depth with
    | 0 => (.ok (), connection, w)
    | 1 => deepen connection w 0 w.commit
    | depth + 1 => deepen connection w depth (w.release (savepointName depth))

def rollback (c : ConnectionId) : Engine -> Except DriverFault Unit × Engine :=
  within c fun connection w =>
    match connection.depth with
    | 0 => (.ok (), connection, w)
    | 1 => deepen connection w 0 w.rollback
    | depth + 1 => deepen connection w depth (w.rollbackTo (savepointName depth))

def driver : Driver Engine where
  connect := connect
  disconnect := disconnect
  execute := execute
  begin := begin
  commit := commit
  rollback := rollback

/-- Read something of the database that a connection sees. -/
def look {α : Type} (read : Database -> Except Fault α) (c : ConnectionId) :
    Engine -> Except DriverFault α × Engine :=
  within c fun connection w =>
    ((match read w.seen with
      | .ok a => .ok a
      | .error fault => .error fault.toDriverFault), connection, w)

def catalog : Catalog Engine where
  tables := fun _ => look fun db => .ok db.listed
  tableExists := fun table => look fun db => .ok (db.hasExactly table)
  columns := fun table => look fun db => do
    return ColumnRecord.definitions (<- db.columnRecords table)
  primaryKey := fun table => look fun db => do
    return ColumnRecord.keyColumns (<- db.columnRecords table)
  foreignKeys := fun table => look fun db => .ok (db.foreignKeysOf table)

end Engine
end Embedded
end SqlGate
