import SqlGate.Proofs.Embedded.KeyOrder
import SqlGate.Proofs.Embedded.Readers
import SqlGate.Proofs.Gateway.Bounds
import SqlGate.Proofs.Gateway.Effects

namespace SqlGate

/-!
# Descriptions of tables

A description puts three questions to the catalog, each on a connection that the
pool happens to lend.  Questions change nothing, so a pool all of whose
connections see one database answers every question from that database, however
many were asked before.  There the columns and the key of a description are the
two readings of one list of records, and only what has no records is not found.
-/

namespace Embedded
namespace Engine

variable {α : Type} {engine : Engine} {pool : Pool} {db : Database}

/-! ## Questions change nothing -/

theorem lookup_store_workspace {c : ConnectionId} {connection : Connection}
    (found : engine.connections.lookup c = some connection) (d : ConnectionId) :
    (engine.store c connection (engine.workspace connection)).connections.lookup d
      = engine.connections.lookup d := by
  rw [lookup_store]
  by_cases here : d = c
  · rw [if_pos here, here, found, workspace]
    dsimp only
    split <;> rfl
  · rw [if_neg here]

/-- A question on one connection does not change what any of them sees. -/
theorem seen?_look (read : Database -> Except Fault α) (c d : ConnectionId) :
    (look read c engine).2.seen? d = engine.seen? d := by
  cases found : engine.connections.lookup c with
  | none => rw [look, within_of_closed found]
  | some connection =>
      have shared : (engine.store c connection (engine.workspace connection)).shared
          = engine.shared := by
        rw [store, workspace]
        dsimp only
        split <;> rfl
      rw [look, within_of_open found, seen?, workspace?, lookup_store_workspace found]
      rw [seen?, workspace?]
      refine congrArg (Option.map Workspace.seen) (Option.map_congr fun other _ => ?_)
      rw [workspace, shared]
      rfl

/-! ## Pools -/

/-- The database that a new connection sees. -/
def offered (engine : Engine) : Database :=
  if engine.location == .memory then {} else engine.shared

theorem seen?_connect (reached : engine.location ≠ .unreachable) :
    engine.connect.1 = .ok engine.next ∧ engine.connect.2.seen? engine.next
      = some engine.offered := by
  rw [connect, if_neg (by simpa using reached)]
  refine ⟨rfl, ?_⟩
  rw [seen?, workspace?, List.lookup_cons, beq_self_eq_true]
  rfl

/-- A pool can lend a connection, and whichever it lends sees a database. -/
structure Serves (engine : Engine) (pool : Pool) (db : Database) : Prop where
  isOpen : pool.isClosed = false
  idle : ∀ c ∈ pool.idle, engine.seen? c = some db
  opens : pool.idle = [] ->
    pool.size < pool.maxSize ∧ engine.location ≠ .unreachable ∧ engine.offered = db

theorem Serves.acquire (serves : engine.Serves pool db) :
    ∃ c left after, pool.acquire driver engine = (.ok c, left, after)
      ∧ left.isClosed = false ∧ after.seen? c = some db
      ∧ ∀ d ∈ left.idle, after.seen? d = some db := by
  unfold Pool.acquire
  rw [if_neg (Bool.eq_false_iff.mp serves.isOpen)]
  cases waiting : pool.idle with
  | cons c rest =>
      have sees := serves.idle
      rw [waiting] at sees
      exact ⟨c, _, engine, rfl, serves.isOpen, sees c List.mem_cons_self,
        fun d member => sees d (List.mem_cons_of_mem _ member)⟩
  | nil =>
      obtain ⟨room, reached, offers⟩ := serves.opens waiting
      obtain ⟨numbered, sees⟩ := seen?_connect reached
      have connected : driver.connect engine = (.ok engine.next, engine.connect.2) :=
        Prod.ext numbered rfl
      dsimp only
      rw [if_pos room, connected]
      refine ⟨engine.next, _, engine.connect.2, rfl, serves.isOpen, offers ▸ sees, nofun⟩

/-- A connection that is given back can be lent again. -/
theorem serves_giveBack {c : ConnectionId} (isOpen : pool.isClosed = false)
    (sees : engine.seen? c = some db) (others : ∀ d ∈ pool.idle, engine.seen? d = some db) :
    (pool.giveBack driver c engine).2.Serves (pool.giveBack driver c engine).1 db := by
  unfold Pool.giveBack
  dsimp only
  rw [if_neg (Bool.eq_false_iff.mp isOpen)]
  refine ⟨isOpen, fun d member => ?_, fun none => ?_⟩
  · rcases List.mem_append.mp member with before | back
    · exact others d before
    · exact List.mem_singleton.mp back ▸ sees
  · exact absurd none (List.append_ne_nil_of_right_ne_nil _ (List.cons_ne_nil _ _))

end Engine
end Embedded

namespace Gateway

open Embedded

variable {α : Type} {g : Gateway Engine} {m : ManagerId} {db : Database}

/-! ## Gateways -/

/-- A manager can lend a connection, and whichever it lends sees a database. -/
def Serves (g : Gateway Engine) (m : ManagerId) (db : Database) : Prop :=
  ∃ manager, g.manager? m = some manager ∧ g.database.Serves manager.pool db

theorem manager?_withPool {σ : Type} {g : Gateway σ} {manager : Manager}
    (known : g.manager? m = some manager) (pool : Pool) (s : σ) :
    (g.withPool m pool s).manager? m = some { manager with pool := pool } := by
  change (g.managers.modify m _)[m]? = _
  rw [List.getElem?_modify, show g.managers[m]? = _ from known]
  simp

/-- A manager that was just made serves whatever a new connection sees. -/
theorem serves_create {config : ConnectionConfig} {made : Gateway Engine}
    (reached : g.database.location ≠ .unreachable) (created : g.create config = (.ok m, made)) :
    made.Serves m g.database.offered := by
  unfold create at created
  split at created
  · rename_i manager accepted
    obtain ⟨checked, pool⟩ := Manager.validate_of_create accepted
    cases created
    refine ⟨manager, List.getElem?_concat_length, ?_⟩
    rw [pool]
    exact ⟨rfl, nofun, fun _ => ⟨ConnectionConfig.one_le_maxSize checked, reached, rfl⟩⟩
  · cases created

/-- A question is put on the connection that is lent, which then goes back. -/
theorem ask_of_acquire {σ : Type} {driver : Driver σ} {g left : Gateway σ} {c : ConnectionId}
    (question : ConnectionId -> σ -> Except DriverFault α × σ)
    (acquired : g.acquire driver m (fun _ fault => fault.toFailure) = (.ok c, left)) :
    Catalog.ask driver m question g
      = ((question c left.database).1.mapError DriverFault.toFailure,
        (left.withDatabase (question c left.database).2).giveBack driver m c) := by
  unfold Catalog.ask lend
  rw [acquired]
  dsimp only
  rcases question c left.database with ⟨fault | a, s⟩
  · rfl
  · rfl

/-- A question is answered from the database that is served, which is served on. -/
theorem Serves.ask (serves : g.Serves m db) (read : Database -> Except Fault α) :
    (Catalog.ask Engine.driver m (Engine.look read) g).1
        = (read db).mapError (fun fault => fault.toDriverFault.toFailure)
      ∧ (Catalog.ask Engine.driver m (Engine.look read) g).2.Serves m db := by
  obtain ⟨manager, known, lends⟩ := serves
  obtain ⟨c, left, after, acquired, isOpen, sees, others⟩ := lends.acquire
  have lent : g.acquire Engine.driver m (fun _ fault => fault.toFailure)
      = (.ok c, g.withPool m left after) := by
    rw [acquire_eq _ _ _ known, acquired]
    rfl
  rw [ask_of_acquire _ lent]
  change ((Engine.look read c after).1.mapError _ = _) ∧ _
  constructor
  · cases told : read db with
    | ok a => rw [Engine.look_of_ok sees told]; rfl
    | error fault => rw [Engine.look_of_error sees told]; rfl
  · have stays : ((g.withPool m left after).withDatabase
        (Engine.look read c after).2).manager? m = some { manager with pool := left } :=
      manager?_withPool known left after
    have kept : ∀ d, (Engine.look read c after).2.seen? d = after.seen? d :=
      Engine.seen?_look read c
    change (giveBack Engine.driver m c ((g.withPool m left after).withDatabase
      (Engine.look read c after).2)).Serves m db
    rw [giveBack_eq _ _ _ stays]
    refine ⟨_, manager?_withPool stays _ _, ?_⟩
    exact Engine.serves_giveBack isOpen ((kept c).trans sees)
      fun d member => (kept d).trans (others d member)

/-! ## Descriptions -/

section

variable {table : String} {records : List ColumnRecord}

theorem Serves.getColumns (serves : g.Serves m db) (told : db.columnRecords table = .ok records) :
    (Engine.catalog.getColumns Engine.driver m table g).1
        = .ok (ColumnRecord.definitions records)
      ∧ (Engine.catalog.getColumns Engine.driver m table g).2.Serves m db := by
  obtain ⟨answer, after⟩ := serves.ask fun db => do
    return ColumnRecord.definitions (<- db.columnRecords table)
  rw [told] at answer
  exact ⟨answer, after⟩

theorem Serves.getPrimaryKey (serves : g.Serves m db)
    (told : db.columnRecords table = .ok records) :
    (Engine.catalog.getPrimaryKey Engine.driver m table g).1
        = .ok (ColumnRecord.keyColumns records)
      ∧ (Engine.catalog.getPrimaryKey Engine.driver m table g).2.Serves m db := by
  obtain ⟨answer, after⟩ := serves.ask fun db => do
    return ColumnRecord.keyColumns (<- db.columnRecords table)
  rw [told] at answer
  exact ⟨answer, after⟩

theorem describe_of_ok {σ : Type} {catalog : Catalog σ} {driver : Driver σ} {g : Gateway σ}
    {columns : List ColumnDefinition} {key : List String} {references : List ForeignKey}
    {afterColumns afterKey after : Gateway σ}
    (first : catalog.getColumns driver m table g = (.ok columns, afterColumns))
    (second : catalog.getPrimaryKey driver m table afterColumns = (.ok key, afterKey))
    (third : catalog.getForeignKeys driver m table afterKey = (.ok references, after))
    (some : columns ≠ []) :
    catalog.describe driver m table g = (.ok ⟨table, columns, key, references⟩, after) := by
  obtain ⟨column, rest, rfl⟩ := List.exists_cons_of_ne_nil some
  simp only [Catalog.describe, first, second, third]

/-- A description holds what each of its questions is answered. -/
theorem Serves.describe (serves : g.Serves m db) (told : db.columnRecords table = .ok records)
    (some : records ≠ []) :
    (Engine.catalog.describe Engine.driver m table g).1
      = .ok ⟨table, ColumnRecord.definitions records, ColumnRecord.keyColumns records,
          db.foreignKeysOf table⟩ := by
  obtain ⟨columns, serves⟩ := serves.getColumns told
  obtain ⟨key, serves⟩ := serves.getPrimaryKey told
  obtain ⟨references, -⟩ := serves.ask fun db => .ok (db.foreignKeysOf table)
  have nonempty : ColumnRecord.definitions records ≠ [] := by simpa [ColumnRecord.definitions]
  exact congrArg Prod.fst
    (describe_of_ok (Prod.ext columns rfl) (Prod.ext key rfl) (Prod.ext references rfl) nonempty)

end

end Gateway

namespace Embedded
namespace ColumnRecord

open Engine (catalog driver)

/-- Whatever is recorded of the columns of a table, as long as no two columns of its key have one
position in it.  There is one definition for each record in their order, flagged exactly if the
column is in the key; it is nullable if the column is neither in the key nor refuses null.  The
names in the key are those of the flagged definitions, by their positions in the key, and the order
of the records does not matter to them.  Wherever these are the records of a database that is
served, the two questions are answered so, and a description has the same two answers in it; it
fails for want of the table exactly if there are no records. -/
theorem readings_of_records {records : List ColumnRecord} (apart : KeyedApart records) :
    List.Forall₂ Tells records (definitions records)
    ∧ (keyColumns records).Perm
        (((definitions records).filter ColumnDefinition.isPrimaryKey).map ColumnDefinition.name)
    ∧ (∃ keyed, IsKeyOf keyed records ∧ keyColumns records = keyed.map ColumnRecord.name)
    ∧ (∀ other : List ColumnRecord, other.Perm records -> keyColumns other = keyColumns records)
    ∧ ∀ (g : Gateway Engine) (m : ManagerId) (db : Database) (table : String),
        g.Serves m db -> db.columnRecords table = .ok records ->
          (catalog.getColumns driver m table g).1 = .ok (definitions records)
          ∧ (catalog.getPrimaryKey driver m table g).1 = .ok (keyColumns records)
          ∧ ((catalog.describe driver m table g).1 = .error (Catalog.noTable table) ↔ records = [])
          ∧ (records ≠ [] -> (catalog.describe driver m table g).1
              = .ok ⟨table, definitions records, keyColumns records, db.foreignKeysOf table⟩) := by
  obtain ⟨keyed, isKey, names⟩ := exists_isKeyOf apart
  refine ⟨tells_definitions records, ?_, ⟨keyed, isKey, names⟩,
    fun other => keyColumns_eq_of_perm apart, fun g m db table serves told => ?_⟩
  · rw [names, names_of_flagged]
    exact isKey.all.map _
  · have columns := (serves.getColumns told).1
    refine ⟨columns, (serves.getPrimaryKey told).1, ?_, serves.describe told⟩
    rw [Catalog.describe_eq_noTable_iff, columns, Except.ok.injEq, definitions,
      List.map_eq_nil_iff]

/-- A table whose key names its columns in another order than the table does. -/
def legs : Engine :=
  [Engine.Event.opened, .sent 0 (.execute
    "CREATE TABLE leg (seat TEXT, flight INTEGER NOT NULL, day TEXT, PRIMARY KEY (day, flight))"
      [])].foldl Engine.serve { location := .file }

def legRecords : List ColumnRecord :=
  [⟨"seat", "TEXT", false, none, 0⟩, ⟨"flight", "INTEGER", true, none, 2⟩,
    ⟨"day", "TEXT", false, none, 1⟩]

/-- A gateway with a manager for the file that the table is in. -/
def legGateway : Gateway Engine :=
  (({ database := legs } : Gateway Engine).create (.sqlite "airline.db")).2

theorem describe_leg :
    KeyedApart legRecords ∧ legs.offered.columnRecords "leg" = .ok legRecords
      ∧ legGateway.Serves 0 legs.offered
      ∧ (catalog.describe driver 0 "leg" legGateway).1
        = .ok ⟨"leg", [⟨"seat", "TEXT", true, none, false⟩, ⟨"flight", "INTEGER", false, none, true⟩,
            ⟨"day", "TEXT", false, none, true⟩], ["day", "flight"], []⟩ := by
  have told : legs.offered.columnRecords "leg" = .ok legRecords := by decide +kernel
  have created : ({ database := legs } : Gateway Engine).create (.sqlite "airline.db")
      = (.ok 0, legGateway) := rfl
  have serves : legGateway.Serves 0 legs.offered :=
    Gateway.serves_create (by decide +kernel) created
  have apart := Database.keyedApart_columnRecords told
  obtain ⟨-, -, -, -, answers⟩ := readings_of_records apart
  have described := (answers legGateway 0 legs.offered "leg" serves told).2.2.2 nofun
  have isKey : IsKeyOf [⟨"day", "TEXT", false, none, 1⟩, ⟨"flight", "INTEGER", true, none, 2⟩]
      legRecords := ⟨by decide, by decide⟩
  have key : keyColumns legRecords = ["day", "flight"] := isKey.keyColumns_eq
  have references : legs.offered.foreignKeysOf "leg" = [] := by decide +kernel
  rw [key, references] at described
  exact ⟨apart, told, serves, described⟩

end ColumnRecord
end Embedded
end SqlGate
