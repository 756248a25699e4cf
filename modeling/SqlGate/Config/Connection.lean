import SqlGate.Config.PoolOptions
import SqlGate.Failure
import SqlGate.Json.Reading
import SqlGate.Url.Parser

namespace SqlGate

/-!
# Connection configurations

A configuration names a database and how to reach it.  It is made from its
parts, from a URL or from a document, and it is shown and written without its
password.
-/

namespace DatabaseKind

def displayName : DatabaseKind -> String
  | .postgres => "PostgreSQL"
  | .sqlite => "SQLite"

def documentName : DatabaseKind -> String
  | .postgres => "postgresql"
  | .sqlite => "sqlite"

/-- The port a database listens on unless another one is given. -/
def defaultPort : DatabaseKind -> Option UInt16
  | .postgres => some 5432
  | .sqlite => none

/-- The database that the beginning of a connection text names. -/
def ofConnectionText? (s : String) : Option DatabaseKind :=
  let begins := fun (word : String) => Text.beginsWith word.toList (s.toList.map Char.toLower)
  if begins "postgres://" || begins "postgresql://" then some .postgres
  else if begins "sqlite:" then some .sqlite
  else none

def ofDocumentName? (name : String) : Option DatabaseKind :=
  [DatabaseKind.postgres, .sqlite].find? fun kind => kind.documentName == name

end DatabaseKind

/-- How to reach a database; only the kind and the database matter for a file. -/
structure ConnectionConfig where
  kind : DatabaseKind
  host : Option String := none
  port : Option UInt16 := none
  /-- The database: its name, or the path of its file. -/
  database : String
  /-- The user. -/
  username : Option String := none
  /-- The password, which is neither shown nor written. -/
  password : Option String := none
  pool : PoolOptions := {}
deriving DecidableEq, Repr

/-- Why a URL is no configuration. -/
inductive ConfigFault where
  | unknownDatabaseType (text : String)
  | invalidUrl (fault : Url.Fault)
  | missingDatabase
  | invalidPoolOptions (fault : PoolFault)
  | unsupportedOption (query : String)
deriving DecidableEq, Repr

namespace ConfigFault

def message : ConfigFault -> String
  | .unknownDatabaseType text => "Unknown database type in connection string: " ++ text
  | .invalidUrl fault => "Invalid URL: " ++ fault.message
  | .missingDatabase => "Connection URL does not name a database"
  | .invalidPoolOptions fault => "Invalid pool options: " ++ fault.message
  | .unsupportedOption query => "Unsupported connection option(s): " ++ query

def toFailure (fault : ConfigFault) : Failure :=
  .configuration fault.message

end ConfigFault

namespace ConnectionConfig

/-- A server. -/
def postgres (host : String) (port : UInt16) (database username password : String) :
    ConnectionConfig :=
  { kind := .postgres, host := some host, port := some port, database := database
    username := some username, password := some password }

/-- A database file. -/
def sqlite (path : String) : ConnectionConfig :=
  { kind := .sqlite, database := path }

def withPool (config : ConnectionConfig) (pool : PoolOptions) : ConnectionConfig :=
  { config with pool := pool }

def isInMemory (config : ConnectionConfig) : Bool :=
  config.kind == .sqlite && config.database == ":memory:"

def masked (config : ConnectionConfig) : String :=
  match config.kind with
  | .postgres =>
      let port := (config.port.or config.kind.defaultPort).getD 5432
      "postgres://" ++ config.username.getD "" ++ ":****@" ++ config.host.getD "localhost" ++ ":"
        ++ String.ofList (Text.ofNat port.toNat) ++ "/" ++ config.database
  | .sqlite => "sqlite:" ++ config.database

/-! ## URLs -/

def dropSlashes (cs : List Char) : List Char :=
  cs.dropWhile (· == '/')

def dropSlashPairs : List Char -> List Char
  | '/' :: '/' :: rest => dropSlashPairs rest
  | cs => cs

def ofServerUrl (url : Url) (pool : PoolOptions) : Except ConfigFault ConnectionConfig :=
  let database := String.ofList (dropSlashes url.pathWithoutQuery.toList)
  if database.isEmpty then .error .missingDatabase
  else .ok
    { kind := .postgres
      host := url.host
      port := (url.port.map UInt16.ofNat).or DatabaseKind.postgres.defaultPort
      database := database
      username := if url.username.isEmpty then none else some url.username
      password := url.password
      pool := pool }

def ofFileUrl (url : Url) (pool : PoolOptions) : Except ConfigFault ConnectionConfig :=
  let path := String.ofList (dropSlashPairs url.pathWithoutQuery.toList)
  if path.isEmpty then .error .missingDatabase
  else .ok ((sqlite path).withPool pool)

/-- Read a URL: pool options are taken from its query, and nothing else may stand there. -/
def ofUrl (s : String) : Except ConfigFault ConnectionConfig :=
  match DatabaseKind.ofConnectionText? s with
  | none => .error (.unknownDatabaseType s)
  | some kind =>
      match Url.parse s with
      | .error fault => .error (.invalidUrl fault)
      | .ok url =>
          let found := PoolOptions.extract url.queryPairs
          let pool := PoolOptions.ofValues found.options.get?
          match pool.validate with
          | .error fault => .error (.invalidPoolOptions fault)
          | .ok () =>
              if found.others.isEmpty then
                match kind with
                | .postgres => ofServerUrl url pool
                | .sqlite => ofFileUrl url pool
              else .error (.unsupportedOption (Bytes.Form.encode found.others))

/-! ## Documents -/

/-- The document of a configuration, without the password. -/
def toJson (config : ConnectionConfig) : Json :=
  .object
    [("db_type", .text config.kind.documentName),
      ("host", Json.ofText? config.host),
      ("port", Json.orNull (config.port.map fun p => Json.ofUInt64 p.toUInt64)),
      ("database", .text config.database),
      ("username", Json.ofText? config.username),
      ("pool_options", config.pool.toJson)]

def fieldNames : List String :=
  ["db_type", "host", "port", "database", "username", "password", "pool_options"]

def kind? (tree : Json.Tree) : Option DatabaseKind :=
  tree.choiceName?.bind DatabaseKind.ofDocumentName?

def port? (tree : Json.Tree) : Option UInt16 :=
  (tree.unsigned? 16).map UInt16.ofNat

def ofTree? (tree : Json.Tree) : Option ConnectionConfig := do
  let record <- Json.Record.ofTree? fieldNames tree
  let kind <- record.required "db_type" kind?
  let host <- record.defaulted "host" none (Json.Tree.nullable Json.Tree.string?)
  let port <- record.defaulted "port" none (Json.Tree.nullable port?)
  let database <- record.required "database" Json.Tree.string?
  let username <- record.defaulted "username" none (Json.Tree.nullable Json.Tree.string?)
  let password <- record.defaulted "password" none (Json.Tree.nullable Json.Tree.string?)
  let pool <- record.defaulted "pool_options" {} PoolOptions.ofTree?
  return ⟨kind, host, port, database, username, password, pool⟩

/-- Read a configuration from the text of a document. -/
def read? (s : String) : Option ConnectionConfig :=
  (Json.Tree.parse? s).bind ofTree?

end ConnectionConfig
end SqlGate
