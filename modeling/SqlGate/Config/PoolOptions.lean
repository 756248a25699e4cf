import SqlGate.Json.Printer
import SqlGate.Json.Record
import SqlGate.Ordered
import SqlGate.Text.Case
import SqlGate.Text.Digits

namespace SqlGate

/-!
# Pool options

How many connections a pool keeps and how long it waits.  An option that is not
set has a default, which for the greatest number of connections depends on the
database.  Options are read from documents and from the query of a URL.
-/

/-- The databases served. -/
inductive DatabaseKind where
  | postgres
  | sqlite
deriving DecidableEq, Repr

/-- Options of a connection pool. -/
structure PoolOptions where
  /-- The greatest number of connections. -/
  maxConnections : Option UInt32 := none
  /-- How many connections are kept open. -/
  minConnections : Option UInt32 := none
  /-- Seconds after which an idle connection is closed. -/
  idleTimeout : Option UInt64 := none
  /-- Seconds to wait for a connection. -/
  acquireTimeout : Option UInt64 := none
  /-- Whether a connection is tested before it is handed out. -/
  testBeforeAcquire : Option Bool := none
deriving DecidableEq, Repr

/-- What is wrong with pool options. -/
inductive PoolFault where
  | noConnections
  | minAboveMax (min max : UInt32)
deriving DecidableEq, Repr

def PoolFault.message : PoolFault -> String
  | .noConnections => "max_connections must be greater than 0"
  | .minAboveMax min max =>
      "min_connections (" ++ String.ofList (Text.ofNat min.toNat)
        ++ ") cannot exceed max_connections (" ++ String.ofList (Text.ofNat max.toNat) ++ ")"

namespace PoolOptions

def maxOrDefault (options : PoolOptions) (kind : DatabaseKind) : UInt32 :=
  options.maxConnections.getD (match kind with
    | .sqlite => 5
    | .postgres => 10)

def minOrDefault (options : PoolOptions) : UInt32 :=
  options.minConnections.getD 0

/-- Seconds after which an idle connection is closed. -/
def idleOrDefault (options : PoolOptions) : UInt64 :=
  options.idleTimeout.getD 600

/-- Seconds to wait for a connection. -/
def acquireOrDefault (options : PoolOptions) : UInt64 :=
  options.acquireTimeout.getD 30

/-- Whether a connection is tested before it is handed out. -/
def testOrDefault (options : PoolOptions) : Bool :=
  options.testBeforeAcquire.getD true

def validate (options : PoolOptions) : Except PoolFault Unit :=
  if options.maxConnections = some 0 then .error .noConnections
  else
    match options.minConnections, options.maxConnections with
    | some min, some max => if max < min then .error (.minAboveMax min max) else .ok ()
    | _, _ => .ok ()

/-! ## Documents -/

def ofUInt32 (n : UInt32) : Json :=
  Json.ofUInt64 n.toUInt64

def toJson (options : PoolOptions) : Json :=
  .object
    [("max_connections", Json.orNull (options.maxConnections.map ofUInt32)),
      ("min_connections", Json.orNull (options.minConnections.map ofUInt32)),
      ("idle_timeout_secs", Json.orNull (options.idleTimeout.map Json.ofUInt64)),
      ("acquire_timeout_secs", Json.orNull (options.acquireTimeout.map Json.ofUInt64)),
      ("test_before_acquire", Json.orNull (options.testBeforeAcquire.map .bool))]

def fieldNames : List String :=
  ["max_connections", "min_connections", "idle_timeout_secs", "acquire_timeout_secs",
    "test_before_acquire"]

def uint32? (tree : Json.Tree) : Option UInt32 :=
  (tree.unsigned? 32).map UInt32.ofNat

def uint64? (tree : Json.Tree) : Option UInt64 :=
  (tree.unsigned? 64).map UInt64.ofNat

def ofTree? (tree : Json.Tree) : Option PoolOptions := do
  let record <- Json.Record.ofTree? fieldNames tree
  let max <- record.optional "max_connections" uint32?
  let min <- record.optional "min_connections" uint32?
  let idle <- record.optional "idle_timeout_secs" uint64?
  let acquire <- record.optional "acquire_timeout_secs" uint64?
  let test <- record.optional "test_before_acquire" Json.Tree.truth?
  return ⟨max, min, idle, acquire, test⟩

/-! ## Queries -/

def queryKeys : List String :=
  ["max_connections", "min_connections", "idle_timeout", "acquire_timeout",
    "test_before_acquire"]

/-- What a query is taken apart into. -/
structure Extraction where
  /-- The values of options, by their keys in small letters. -/
  options : Ordered String := Ordered.empty
  /-- The pairs that set no option. -/
  others : List (String × String) := []

/-- Take one more pair: the key of an option may be written in any case. -/
def Extraction.take (found : Extraction) (pair : String × String) : Extraction :=
  let key := Text.lower pair.1
  if queryKeys.contains key then { found with options := found.options.put key pair.2 }
  else { found with others := found.others ++ [pair] }

/-- Take the pairs of a query one after another. -/
def extract (pairs : List (String × String)) : Extraction :=
  pairs.foldl Extraction.take {}

/-- A truth value in any case; all else is no value. -/
def truthWord? (s : String) : Option Bool :=
  if Text.sameIgnoringCase s "true" then some true
  else if Text.sameIgnoringCase s "false" then some false
  else none

def uint32Word? (s : String) : Option UInt32 :=
  (Text.unsigned? 32 s).map UInt32.ofNat

def uint64Word? (s : String) : Option UInt64 :=
  (Text.unsigned? 64 s).map UInt64.ofNat

/-- The pool options with the given values; a value that cannot be read sets nothing. -/
def ofValues (value : String -> Option String) : PoolOptions :=
  { maxConnections := (value "max_connections").bind uint32Word?
    minConnections := (value "min_connections").bind uint32Word?
    idleTimeout := (value "idle_timeout").bind uint64Word?
    acquireTimeout := (value "acquire_timeout").bind uint64Word?
    testBeforeAcquire := (value "test_before_acquire").bind truthWord? }

end PoolOptions
end SqlGate
