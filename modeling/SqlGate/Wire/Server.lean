import SqlGate.Gateway.Driver
import SqlGate.Wire.Binding

namespace SqlGate
namespace Wire

/-!
# Talking to a server

A server is known by what it answers: it has a queue of replies, and every
statement that reaches it takes the next one.  What was sent is kept beside.
A statement without values travels as a text and its cells come back as texts.
A statement with values is prepared when a connection runs it for the first
time; the connection then keeps the types of its values and its columns, and
cells come back in binary.
-/

/-- A column of a reply. -/
structure Column where
  name : String
  /-- The number of its type. -/
  type : Nat
deriving DecidableEq, Repr

/-- An error that a server reports. -/
structure ServerError where
  /-- The code of its kind. -/
  code : String
  /-- Its wording. -/
  message : String
deriving DecidableEq, Repr

/-- The fault that an error is to the caller. -/
def ServerError.toFault (error : ServerError) : DriverFault :=
  .refused error.message (some error.code)

/-- What a server answers to a statement. -/
inductive Reply where
  | done (columns : List Column) (rows : List (List Cell)) (tag : String)
  /-- The statement is refused when it is prepared or run. -/
  | refused (error : ServerError)
  /-- The statement is prepared and refused when it is run. -/
  | failed (columns : List Column) (error : ServerError)

/-- How a statement travels. -/
inductive Passage where
  | simple
  | prepare
  | extended
deriving DecidableEq, Repr

/-- A statement that was sent. -/
structure Message where
  /-- How it travelled. -/
  passage : Passage
  /-- Its text. -/
  sql : String
  /-- The types of its values, as they were when it was prepared. -/
  types : List Nat := []
  values : List Cell := []
deriving DecidableEq, Repr

/-- What a connection keeps of a statement that it prepared. -/
structure Prepared where
  /-- The types of its values. -/
  types : List Nat
  /-- The columns of its rows. -/
  columns : List Column
deriving DecidableEq, Repr

/-- A server with the connections to it. -/
structure Server where
  /-- The fault of every attempt to connect, if there is one. -/
  refusal : Option DriverFault := none
  /-- The replies to come. -/
  replies : List Reply := []
  /-- What was sent, the latest first. -/
  log : List Message := []
  /-- The statements that each connection prepared. -/
  connections : List (ConnectionId × List (String × Prepared)) := []
  /-- The number of the next connection. -/
  next : ConnectionId := 0

/-- The rows that came back for a statement. -/
structure RawResult where
  columns : List Column := []
  /-- The cells of each row. -/
  rows : List (List Cell) := []
  /-- How the cells are sent. -/
  form : Form := .text
  /-- The number of rows affected. -/
  affected : Nat := 0

/-- The number at the end of a tag; a tag without one affects no row. -/
def affectedOf (tag : String) : Nat :=
  let cs := tag.toList
  if cs.contains ' ' then
    let word := (cs.reverse.takeWhile (· != ' ')).reverse
    let number :=
      match word with
      | '+' :: rest => rest
      | rest => rest
    let n := Number.digitsValue (number.takeWhile Char.isDigit)
    if n < 18446744073709551616 then n else 0
  else 0

namespace RawResult

def row (result : RawResult) (cells : List Cell) : Row :=
  Ordered.ofList ((result.columns.zip cells).map fun entry =>
    (entry.1.name,
      decodeCell (typeName entry.1.type) (.ofNumber entry.1.type) result.form entry.2))

def toAnswer (result : RawResult) : Answer :=
  ⟨result.rows.map result.row, result.affected⟩

end RawResult

namespace Server

/-- Note what is sent. -/
def note (server : Server) (message : Message) : Server :=
  { server with log := message :: server.log }

/-- What was sent, the earliest first. -/
def sent (server : Server) : List Message :=
  server.log.reverse

/-- The reply of a server that was told nothing else. -/
def quiet : Reply := .done [] [] "OK"

def takeReply (server : Server) : Reply × Server :=
  match server.replies with
  | reply :: rest => (reply, { server with replies := rest })
  | [] => (quiet, server)

/-! ## Connections -/

def connect (server : Server) : Except DriverFault ConnectionId × Server :=
  match server.refusal with
  | some fault => (.error fault, server)
  | none =>
      (.ok server.next,
        { server with
          connections := (server.next, []) :: server.connections
          next := server.next + 1 })

def disconnect (c : ConnectionId) (server : Server) : Server :=
  { server with connections := server.connections.filter fun entry => entry.1 != c }

/-- What a connection keeps of a statement. -/
def prepared? (server : Server) (c : ConnectionId) (sql : String) : Option Prepared :=
  (server.connections.lookup c).bind fun statements => statements.lookup sql

/-- Let a connection keep a statement. -/
def keep (server : Server) (c : ConnectionId) (sql : String) (prepared : Prepared) : Server :=
  { server with
    connections := server.connections.map fun entry =>
      if entry.1 = c then (c, (sql, prepared) :: entry.2) else entry }

/-! ## Statements -/

/-- The statements that a server answers without being told how. -/
def isTransactionWord (sql : String) : Bool :=
  ["BEGIN", "COMMIT", "ROLLBACK"].contains sql

def runSimple (sql : String) (server : Server) : Except DriverFault RawResult × Server :=
  let server := server.note { passage := .simple, sql := sql }
  if isTransactionWord sql then (.ok {}, server)
  else
    match server.takeReply with
    | (.done columns rows tag, server) => (.ok ⟨columns, rows, .text, affectedOf tag⟩, server)
    | (.refused error, server) => (.error error.toFault, server)
    | (.failed _ error, server) => (.error error.toFault, server)

/--
Run a statement that is prepared, with columns known.  What refuses to be
prepared has nothing to say to one that is prepared already.
-/
def runPrepared (columns : List Column) : Reply -> Except DriverFault RawResult
  | .done _ rows tag => .ok ⟨columns, rows, .binary, affectedOf tag⟩
  | .refused _ => .ok ⟨columns, [], .binary, 0⟩
  | .failed _ error => .error error.toFault

def runExtended (c : ConnectionId) (sql : String) (values : List Bound) (server : Server) :
    Except DriverFault RawResult × Server :=
  let run := fun (prepared : Prepared) (reply : Reply) (server : Server) =>
    (runPrepared prepared.columns reply,
      server.note ⟨.extended, sql, prepared.types, values.map Bound.cell⟩)
  let taken := server.takeReply
  match server.prepared? c sql with
  | some prepared => run prepared taken.1 taken.2
  | none =>
      let types := values.map Bound.type
      let prepare := fun (columns : List Column) =>
        run ⟨types, columns⟩ taken.1 (taken.2.keep c sql ⟨types, columns⟩)
      match taken.1 with
      | .refused error =>
          (.error error.toFault,
            taken.2.note { passage := .prepare, sql := sql, types := types })
      | .done columns _ _ => prepare columns
      | .failed columns _ => prepare columns

def execute (c : ConnectionId) (sql : String) (values : List Value) (server : Server) :
    Except DriverFault Answer × Server :=
  let done :=
    if values.isEmpty then runSimple sql server
    else runExtended c sql (values.map Bound.ofValue) server
  (done.1.map RawResult.toAnswer, done.2)

/-- Run one of the statements about transactions. -/
def runWord (word : String) (_c : ConnectionId) (server : Server) :
    Except DriverFault Unit × Server :=
  let done := runSimple word server
  (done.1.map fun _ => (), done.2)

def driver : Driver Server where
  connect := connect
  disconnect := disconnect
  execute := execute
  begin := runWord "BEGIN"
  commit := runWord "COMMIT"
  rollback := runWord "ROLLBACK"

end Server
end Wire
end SqlGate
