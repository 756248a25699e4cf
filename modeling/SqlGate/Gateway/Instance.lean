import SqlGate.Gateway.Manager

namespace SqlGate

/-!
# The instance of a process

A process may share one manager.  The cell that holds it is written once; every
call looks at it first, makes a manager of its own if it is empty, and then
either puts that manager there or takes the one that another call put there in
the meantime.  A call is a value that goes through these three steps, so calls
can be interleaved in any order.
-/

/-- A manager that was made, told apart from others by its number. -/
structure Instance where
  number : Nat
  config : ConnectionConfig
deriving DecidableEq, Repr

/-- The cell that holds the shared manager, and the number of the next one made. -/
structure InstanceCell where
  /-- The shared manager, once there is one. -/
  shared : Option Instance := none
  /-- The number of the next manager that is made. -/
  next : Nat := 0
deriving DecidableEq, Repr

/-- How far a call for the shared manager has come. -/
inductive InstanceCall where
  /-- It has not looked at the cell. -/
  | started (config : Option ConnectionConfig)
  /-- It found the cell empty. -/
  | foundEmpty (config : Option ConnectionConfig)
  /-- It made a manager. -/
  | made (candidate : Instance)
  | returned (result : Outcome Instance)

namespace InstanceCall

/-- The failure of a call that finds the cell empty and has no configuration. -/
def notInitialized : Failure :=
  .configuration
    ("Connection manager is not initialized; "
      ++ "the first call must provide a configuration")

def look (config : Option ConnectionConfig) (cell : InstanceCell) : InstanceCall :=
  match cell.shared with
  | some shared => .returned (.ok shared)
  | none => .foundEmpty config

/-- Make a manager of the configuration of the call. -/
def make (config : Option ConnectionConfig) (cell : InstanceCell) :
    InstanceCall × InstanceCell :=
  match config with
  | none => (.returned (.error notInitialized), cell)
  | some config =>
      match Manager.create config with
      | .error failure => (.returned (.error failure), cell)
      | .ok manager => (.made ⟨cell.next, manager.config⟩, { cell with next := cell.next + 1 })

/-- Put a manager into the cell unless one is there, and return what is there then. -/
def put (candidate : Instance) (cell : InstanceCell) : InstanceCall × InstanceCell :=
  match cell.shared with
  | some shared => (.returned (.ok shared), cell)
  | none => (.returned (.ok candidate), { cell with shared := some candidate })

def step (call : InstanceCall) (cell : InstanceCell) : InstanceCall × InstanceCell :=
  match call with
  | .started config => (look config cell, cell)
  | .foundEmpty config => make config cell
  | .made candidate => put candidate cell
  | .returned result => (.returned result, cell)

end InstanceCall

namespace InstanceCell

/-- A call that is not interleaved with others. -/
def getInstance (config : Option ConnectionConfig) (cell : InstanceCell) :
    Outcome Instance × InstanceCell :=
  let looked := (InstanceCall.started config).step cell
  let made := looked.1.step looked.2
  let done := made.1.step made.2
  match done.1 with
  | .returned result => (result, done.2)
  | _ => (.error InstanceCall.notInitialized, done.2)

end InstanceCell
end SqlGate
