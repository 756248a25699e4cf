import SqlGate.Config.Connection
import SqlGate.Gateway.Driver

namespace SqlGate

/-!
# Connection pools

A pool lends connections, each to one user at a time.  The connection that has
been idle longest is lent first; a new one is opened only when none is idle and
the pool has not reached its bound.  A pool that cannot lend does not wait: it
reports at once that waiting would have been in vain.
-/

/-- A pool of connections. -/
structure Pool where
  /-- The greatest number of connections. -/
  maxSize : Nat
  /-- How many connections are to be kept open. -/
  minSize : Nat
  /-- The idle connections, the one idle longest first. -/
  idle : List ConnectionId := []
  /-- The connections lent out. -/
  lent : List ConnectionId := []
  /-- Whether the pool was closed. -/
  isClosed : Bool := false
deriving Repr

namespace Pool

/-- The pool of a configuration; every connection to a database in memory would see its own. -/
def ofConfig (config : ConnectionConfig) : Pool :=
  { maxSize :=
      if config.isInMemory then 1 else (config.pool.maxOrDefault config.kind).toNat
    minSize := config.pool.minOrDefault.toNat }

def size (pool : Pool) : Nat :=
  pool.idle.length + pool.lent.length

def acquire {σ : Type} (driver : Driver σ) (pool : Pool) (s : σ) :
    Except DriverFault ConnectionId × Pool × σ :=
  if pool.isClosed then (.error .poolClosed, pool, s)
  else
    match pool.idle with
    | c :: rest => (.ok c, { pool with idle := rest, lent := c :: pool.lent }, s)
    | [] =>
        if pool.size < pool.maxSize then
          match driver.connect s with
          | (.ok c, s) => (.ok c, { pool with lent := c :: pool.lent }, s)
          | (.error fault, s) => (.error fault, pool, s)
        else (.error .poolTimeout, pool, s)

/-- Take a lent connection back; a closed pool closes it. -/
def giveBack {σ : Type} (driver : Driver σ) (c : ConnectionId) (pool : Pool) (s : σ) :
    Pool × σ :=
  let pool := { pool with lent := pool.lent.erase c }
  if pool.isClosed then (pool, driver.disconnect c s)
  else ({ pool with idle := pool.idle ++ [c] }, s)

def close {σ : Type} (driver : Driver σ) (pool : Pool) (s : σ) : Pool × σ :=
  ({ pool with idle := [], isClosed := true },
    pool.idle.foldl (fun s c => driver.disconnect c s) s)

end Pool
end SqlGate
