import Mathlib.Data.List.Forall2
import Mathlib.Data.List.Sigma
import SqlGate.Embedded.Records
import SqlGate.Proofs.Success

namespace SqlGate
namespace Embedded

/-!
# Columns and keys read off one table

The definitions of the columns and the names in the key are read off the same
records by two readers that do not know of each other.  The first keeps the
order of the records and only flags the columns of the key, the second leaves
the others out and sorts by the position in the key.  As no two columns of a key
have one position in it, there is a single list of its columns by their
positions: the key does not tell in which order its columns were declared.
-/

namespace ColumnRecord

variable {records : List ColumnRecord}

/-! ## Definitions -/

/-- What a definition tells of the column that a record is about. -/
structure Tells (record : ColumnRecord) (column : ColumnDefinition) : Prop where
  name : column.name = record.name
  dataType : column.dataType = record.declared
  defaultValue : column.defaultValue = record.default
  flagged : column.isPrimaryKey = true ↔ 0 < record.keyPosition
  ofKey : column.isPrimaryKey = true -> column.nullable = false
  ofOther : column.isPrimaryKey = false -> (column.nullable = true ↔ record.notNull = false)

theorem tells_definition (record : ColumnRecord) : record.Tells record.definition where
  name := rfl
  dataType := rfl
  defaultValue := rfl
  flagged := bne_iff_ne.trans Nat.pos_iff_ne_zero.symm
  ofKey := by
    intro flagged
    rw [definition, beq_false_of_ne (bne_iff_ne.mp flagged), Bool.and_false]
  ofOther := by
    intro unflagged
    rw [definition, bne_eq_false_iff_eq.mp unflagged, beq_self_eq_true, Bool.and_true,
      Bool.not_eq_true']

/-- There is one definition for each record, in the order of the records. -/
theorem tells_definitions (records : List ColumnRecord) :
    List.Forall₂ Tells records (definitions records) :=
  List.forall₂_map_right_iff.mpr (List.forall₂_same.mpr fun record _ => tells_definition record)

/-! ## The key -/

/-- The records of the columns of the key, in the order of their declaration. -/
def ofKey (records : List ColumnRecord) : List ColumnRecord :=
  records.filter fun record => record.keyPosition != 0

/-- Whether no two columns of the key have one position in it. -/
def KeyedApart (records : List ColumnRecord) : Prop :=
  ((ofKey records).map ColumnRecord.keyPosition).Nodup

/-- The columns of the key, one behind the other by their positions. -/
structure IsKeyOf (keyed records : List ColumnRecord) : Prop where
  all : keyed.Perm (ofKey records)
  ordered : keyed.Pairwise fun a b => a.keyPosition < b.keyPosition

/-- The flagged definitions are those of the columns of the key. -/
theorem names_of_flagged (records : List ColumnRecord) :
    ((definitions records).filter ColumnDefinition.isPrimaryKey).map ColumnDefinition.name
      = (ofKey records).map ColumnRecord.name := by
  rw [definitions, List.filter_map, List.map_map]
  rfl

theorem pairwise_mergeSort_keyPosition (records : List ColumnRecord) :
    (records.mergeSort fun a b => a.keyPosition ≤ b.keyPosition).Pairwise
      fun a b => a.keyPosition ≤ b.keyPosition := by
  refine (List.pairwise_mergeSort ?_ ?_ records).imp of_decide_eq_true
  · intro a b c below above
    exact decide_eq_true (Nat.le_trans (of_decide_eq_true below) (of_decide_eq_true above))
  · intro a b
    simpa using Nat.le_total a.keyPosition b.keyPosition

/-- The names in the key are those of its columns by their positions. -/
theorem exists_isKeyOf (apart : KeyedApart records) :
    ∃ keyed, IsKeyOf keyed records ∧ keyColumns records = keyed.map ColumnRecord.name := by
  have all := List.mergeSort_perm (ofKey records) fun a b => a.keyPosition ≤ b.keyPosition
  refine ⟨_, ⟨all, ?_⟩, rfl⟩
  have different := List.pairwise_map.mp ((all.map ColumnRecord.keyPosition).nodup_iff.mpr apart)
  exact (pairwise_mergeSort_keyPosition _).imp₂ (fun _ _ => Nat.lt_of_le_of_ne) different

theorem IsKeyOf.unique {keyed other : List ColumnRecord} (first : IsKeyOf keyed records)
    (second : IsKeyOf other records) : keyed = other :=
  List.Perm.eq_of_pairwise (fun _ _ _ _ below above => absurd above (Nat.lt_asymm below))
    first.ordered second.ordered (first.all.trans second.all.symm)

theorem IsKeyOf.keyColumns_eq {keyed : List ColumnRecord} (isKey : IsKeyOf keyed records) :
    keyColumns records = keyed.map ColumnRecord.name := by
  have different : (keyed.map ColumnRecord.keyPosition).Nodup :=
    List.pairwise_map.mpr (isKey.ordered.imp fun below => Nat.ne_of_lt below)
  obtain ⟨other, isKey', names⟩ :=
    exists_isKeyOf ((isKey.all.map ColumnRecord.keyPosition).nodup_iff.mp different)
  rw [names, isKey'.unique isKey]

/-- The order in which the columns of a table are declared does not matter to its key. -/
theorem keyColumns_eq_of_perm {other : List ColumnRecord} (apart : KeyedApart records)
    (rearranged : other.Perm records) : keyColumns other = keyColumns records := by
  obtain ⟨keyed, isKey, names⟩ := exists_isKeyOf apart
  have ofOther : IsKeyOf keyed other := ⟨isKey.all.trans (rearranged.symm.filter _), isKey.ordered⟩
  rw [names, ofOther.keyColumns_eq]

end ColumnRecord

/-! ## Positions that are recorded -/

/-- A position in the key belongs to one place of the table. -/
theorem Table.place_eq_of_keyPosition {table : Table} {entry other : Column × Nat}
    (keyed : (table.record entry).keyPosition ≠ 0)
    (same : (table.record entry).keyPosition = (table.record other).keyPosition) :
    entry.2 = other.2 := by
  have found : ∀ {entry : Column × Nat}, (table.record entry).keyPosition ≠ 0 ->
      table.primaryKey[(table.record entry).keyPosition - 1]? = some entry.2 := by
    intro entry keyed
    cases position : table.primaryKey.findIdx? (· == entry.2) with
    | none =>
        rw [Table.record, position] at keyed
        exact absurd rfl keyed
    | some i =>
        obtain ⟨within, here, -⟩ := List.findIdx?_eq_some_iff_getElem.mp position
        rw [Table.record, position]
        change table.primaryKey[i]? = some entry.2
        rw [List.getElem?_eq_getElem within, eq_of_beq here]
  exact Option.some.inj ((found keyed).symm.trans (same ▸ found (same ▸ keyed)))

/-- The columns of a key have their own positions in whatever a database records. -/
theorem Database.keyedApart_columnRecords {db : Database} {name : String}
    {records : List ColumnRecord} (told : db.columnRecords name = .ok records) :
    ColumnRecord.KeyedApart records := by
  have unkeyed : ∀ {records : List ColumnRecord}, (∀ record ∈ records, record.keyPosition = 0) ->
      ColumnRecord.KeyedApart records := by
    intro records outside
    have none : ColumnRecord.ofKey records = [] :=
      List.filter_eq_nil_iff.mpr fun record member => by simp [outside record member]
    rw [ColumnRecord.KeyedApart, none]
    exact List.nodup_nil
  unfold columnRecords at told
  split at told
  · rename_i _ table _
    cases told
    have places := List.pairwise_map.mp (List.nodup_zipIdx_map_snd table.columns)
    rw [ColumnRecord.KeyedApart, ColumnRecord.ofKey, List.filter_map, List.map_map]
    refine List.pairwise_map.mpr ?_
    refine List.Pairwise.imp_of_mem ?_ (places.sublist List.filter_sublist)
    intro entry other member _ different same
    exact different (Table.place_eq_of_keyPosition
      (bne_iff_ne.mp (List.mem_filter.mp member).2) same)
  · obtain ⟨columns, -, told⟩ := exists_ok_of_bind told
    cases told
    refine unkeyed fun record member => ?_
    obtain ⟨column, -, rfl⟩ := List.mem_map.mp member
    rfl
  · cases told
    refine unkeyed ?_
    split
    · intro record member
      obtain ⟨column, -, rfl⟩ := List.mem_map.mp member
      rfl
    · nofun

end Embedded
end SqlGate
