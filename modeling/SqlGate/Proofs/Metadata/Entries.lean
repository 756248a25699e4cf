import Mathlib.Data.List.Induction
import SqlGate.Proofs.Metadata.Sharing

namespace SqlGate

/-!
# What the entries of a registry keep

An entry comes about in two ways: part by part, by registrations, or as a whole,
when the metadata of a type are set.  On both ways a column or a relation is
filed under its own property, so that every entry files each property once.

Names are another matter.  A registration with a blank table or a blank key is
refused, while metadata are set as they are, whatever they contain.  So a blank
name stands in an entry exactly if it came in with metadata that were set and
this part of the entry was not written again since.
-/

namespace Ordered

variable {α : Type} {name : α -> String} {m : Ordered α}

/-- Each thing stands under its own name, and no name occurs twice. -/
structure IsFiledBy (m : Ordered α) (name : α -> String) : Prop where
  own : ∀ key thing, m.get? key = some thing -> name thing = key
  once : (m.values.map name).Nodup

theorem isFiledBy_of_own (own : ∀ key thing, m.get? key = some thing -> name thing = key) :
    m.IsFiledBy name where
  own := own
  once := by
    have names : m.values.map name = m.keys := by
      rw [values, keys, List.map_map]
      refine List.map_congr_left ?_
      intro entry member
      exact own entry.1 entry.2 ((get?_eq_some_iff m _ _).mpr member)
    rw [names]
    exact m.nodup

theorem isFiledBy_empty : (empty : Ordered α).IsFiledBy name :=
  isFiledBy_of_own nofun

theorem IsFiledBy.put (filed : m.IsFiledBy name) (thing : α) :
    (m.put (name thing) thing).IsFiledBy name := by
  apply isFiledBy_of_own
  intro key other found
  rw [get?_put] at found
  split at found
  · rename_i same
    cases found
    exact same.symm
  · exact filed.own key other found

end Ordered

/-! ## Entries -/

namespace ModelMetadata

variable {m : ModelMetadata}

/-- Metadata that were made from a table by adding a key, columns and relations. -/
inductive IsBuilt : ModelMetadata -> Prop where
  | new (tableName : String) : IsBuilt (new tableName)
  | withPrimaryKey {m : ModelMetadata} (built : IsBuilt m) (property : String) :
      IsBuilt (m.withPrimaryKey property)
  | withColumn {m : ModelMetadata} (built : IsBuilt m) (column : ColumnMetadata) :
      IsBuilt (m.withColumn column)
  | withRelationship {m : ModelMetadata} (built : IsBuilt m) (relationship : RelationshipMetadata) :
      IsBuilt (m.withRelationship relationship)

/-- Columns and relations are filed by their properties. -/
structure IsFiled (m : ModelMetadata) : Prop where
  columns : m.columns.IsFiledBy ColumnMetadata.property
  relationships : m.relationships.IsFiledBy RelationshipMetadata.property

theorem isFiled_new (tableName : String) : (new tableName).IsFiled :=
  ⟨Ordered.isFiledBy_empty, Ordered.isFiledBy_empty⟩

theorem IsFiled.applyTo (filed : m.IsFiled) (registration : Registration) :
    (registration.applyTo m).IsFiled := by
  cases registration with
  | table name => exact ⟨filed.columns, filed.relationships⟩
  | primaryKey property => exact ⟨filed.columns, filed.relationships⟩
  | column added => exact ⟨filed.columns.put added, filed.relationships⟩
  | relationship added => exact ⟨filed.columns, filed.relationships.put added⟩

theorem IsBuilt.isFiled (built : m.IsBuilt) : m.IsFiled := by
  induction built with
  | new tableName => exact isFiled_new tableName
  | withPrimaryKey _ property filed => exact filed.applyTo (.primaryKey property)
  | withColumn _ column filed => exact filed.applyTo (.column column)
  | withRelationship _ relationship filed => exact filed.applyTo (.relationship relationship)

/-- Whether a part of an entry holds a name of blanks only.  A table without characters is one
that was not set yet; only tables and keys are names in this sense. -/
def isBlankIn (m : ModelMetadata) : Registration.Facet -> Bool
  | .table => m.hasTable && Text.isBlankText m.tableName
  | .primaryKey => m.primaryKey.any Text.isBlankText
  | .column | .relationship => false

/-- The table was not set, or it is not blank. -/
def NamesTable (m : ModelMetadata) : Prop :=
  m.tableName = "" ∨ Text.isBlankText m.tableName = false

/-- The key was not set, or it is not blank. -/
def NamesKey (m : ModelMetadata) : Prop :=
  ∀ property, m.primaryKey = some property -> Text.isBlankText property = false

theorem namesTable_iff : m.NamesTable ↔ ¬ m.isBlankIn .table = true := by
  simp only [NamesTable, isBlankIn, hasTable, Bool.not_eq_true, Bool.and_eq_false_iff,
    Bool.not_eq_false', String.isEmpty_iff]

theorem namesKey_iff : m.NamesKey ↔ ¬ m.isBlankIn .primaryKey = true := by
  rw [NamesKey, isBlankIn]
  cases m.primaryKey <;> simp

/-- An accepted registration leaves no blank name in the part that it writes, and every other part
as it is. -/
theorem isBlankIn_applyTo (m : ModelMetadata) {registration : Registration}
    (accepted : registration.isBlank = false) (facet : Registration.Facet) :
    (registration.applyTo m).isBlankIn facet
      = (decide (registration.facet ≠ facet) && m.isBlankIn facet) := by
  cases registration with
  | table name =>
      have solid : Text.isBlankText name = false := accepted
      cases facet <;> simp [Registration.applyTo, Registration.facet, isBlankIn, solid]
  | primaryKey property =>
      have solid : Text.isBlankText property = false := accepted
      cases facet <;>
        simp [Registration.applyTo, withPrimaryKey, Registration.facet, isBlankIn, hasTable, solid]
  | column added =>
      cases facet <;>
        simp [Registration.applyTo, withColumn, Registration.facet, isBlankIn, hasTable]
  | relationship added =>
      cases facet <;>
        simp [Registration.applyTo, withRelationship, Registration.facet, isBlankIn, hasTable]

end ModelMetadata

/-! ## Actions on a registry -/

/-- Whatever changes a registry. -/
inductive RegistryAction where
  | register (call : RegistryCall)
  | setMetadata (type : ModelType) (metadata : ModelMetadata)
  | clear

/-- Whether an action writes a part of the entry of a type, be it to empty it. -/
def RegistryAction.writes (type : ModelType) (facet : Registration.Facet) : RegistryAction -> Bool
  | .register call => call.countsFor type && decide (call.registration.facet = facet)
  | .setMetadata other _ => decide (other = type)
  | .clear => true

namespace Registry

variable {r : Registry} {type : ModelType} {facet : Registration.Facet}

def act (r : Registry) : RegistryAction -> Registry
  | .register call => r.perform call
  | .setMetadata type metadata => r.setMetadata type metadata
  | .clear => r.clear

def actAll (r : Registry) (run : List RegistryAction) : Registry :=
  run.foldl act r

theorem actAll_concat (r : Registry) (run : List RegistryAction) (last : RegistryAction) :
    r.actAll (run ++ [last]) = (r.actAll run).act last := by
  rw [actAll, actAll, List.foldl_append]
  rfl

/-- The entry of a type after an action: an accepted registration for the type changes it, and
setting the metadata of the type replaces it. -/
theorem metadata?_act (r : Registry) (action : RegistryAction) (type : ModelType) :
    (r.act action).metadata? type
      = match action with
        | .register call =>
            if call.countsFor type then
              some (call.registration.applyTo ((r.metadata? type).getD {}))
            else r.metadata? type
        | .setMetadata other metadata =>
            if type = other then some metadata else r.metadata? type
        | .clear => none := by
  cases action with
  | register call => exact metadata?_perform r call type
  | setMetadata other metadata => exact metadata?_setMetadata r other type metadata
  | clear => rfl

/-! ## Filing -/

/-- Every entry is filed by its properties. -/
def IsFiled (r : Registry) : Prop :=
  ∀ type m, r.metadata? type = some m -> m.IsFiled

theorem isFiled_empty : empty.IsFiled := nofun

theorem IsFiled.act (filed : r.IsFiled) {action : RegistryAction}
    (built : ∀ type m, action = .setMetadata type m -> m.IsBuilt) : (r.act action).IsFiled := by
  intro type m entry
  have known : ((r.metadata? type).getD {}).IsFiled := by
    cases found : r.metadata? type with
    | none => exact ModelMetadata.isFiled_new ""
    | some m => exact filed type m found
  rw [metadata?_act] at entry
  cases action with
  | register call =>
      dsimp only at entry
      split at entry
      · cases entry
        exact known.applyTo call.registration
      · exact filed type m entry
  | setMetadata other given =>
      dsimp only at entry
      split at entry
      · cases entry
        exact (built other m rfl).isFiled
      · exact filed type m entry
  | clear => cases entry

theorem isFiled_actAll {run : List RegistryAction}
    (built : ∀ type m, .setMetadata type m ∈ run -> m.IsBuilt) : (empty.actAll run).IsFiled := by
  induction run using List.reverseRecOn with
  | nil => exact isFiled_empty
  | append_singleton run last filed =>
      rw [actAll_concat]
      refine (filed ?_).act ?_
      · exact fun type m member => built type m (List.mem_append_left _ member)
      · exact fun type m same => built type m (List.mem_append_right _ (by simp [same]))

/-! ## Names -/

/-- Whether a part of the entry of a type holds a name of blanks only. -/
def isBlankIn (r : Registry) (type : ModelType) (facet : Registration.Facet) : Bool :=
  (r.metadata? type).any fun m => m.isBlankIn facet

/-- An action that writes a part of an entry leaves a blank name there only if it sets metadata
with a blank name; any other action leaves the part as it was. -/
theorem isBlankIn_act (r : Registry) (action : RegistryAction) (type : ModelType)
    (facet : Registration.Facet) :
    (r.act action).isBlankIn type facet
      = match action with
        | .setMetadata other metadata =>
            if type = other then metadata.isBlankIn facet else r.isBlankIn type facet
        | _ => !action.writes type facet && r.isBlankIn type facet := by
  rw [isBlankIn, metadata?_act]
  cases action with
  | register call =>
      dsimp only
      cases counts : call.countsFor type with
      | true =>
          have accepted : call.registration.isBlank = false := by
            simp only [RegistryCall.countsFor, Bool.and_eq_true, Bool.not_eq_true'] at counts
            exact counts.2
          rw [if_pos rfl, Option.any_some, ModelMetadata.isBlankIn_applyTo _ accepted,
            RegistryAction.writes, counts, Bool.true_and, decide_not, isBlankIn]
          cases r.metadata? type with
          | none => cases facet <;> rfl
          | some m => rfl
      | false =>
          rw [if_neg Bool.false_ne_true, RegistryAction.writes, counts]
          rfl
  | setMetadata other metadata =>
      dsimp only
      split
      · rfl
      · rfl
  | clear => rfl

/-- A run leaves a blank name in a part of the entry of a type: metadata with one are set for the
type, and no later action writes this part. -/
def LeavesBlank (run : List RegistryAction) (type : ModelType) (facet : Registration.Facet) :
    Prop :=
  ∃ before m after, run = before ++ .setMetadata type m :: after ∧ m.isBlankIn facet = true
    ∧ ∀ action ∈ after, action.writes type facet = false

theorem leavesBlank_concat (run : List RegistryAction) (last : RegistryAction) :
    LeavesBlank (run ++ [last]) type facet
      ↔ (∃ m, last = .setMetadata type m ∧ m.isBlankIn facet = true)
        ∨ (last.writes type facet = false ∧ LeavesBlank run type facet) := by
  constructor
  · rintro ⟨before, m, after, parts, blank, kept⟩
    rcases List.eq_nil_or_concat after with rfl | ⟨others, final, rfl⟩
    · obtain ⟨-, same⟩ := List.append_inj' parts rfl
      exact .inl ⟨m, List.singleton_inj.mp same, blank⟩
    · rw [List.concat_eq_append, ← List.cons_append, ← List.append_assoc] at parts
      obtain ⟨rfl, same⟩ := List.append_inj' parts rfl
      refine .inr ⟨?_, before, m, others, rfl, blank, ?_⟩
      · rw [List.singleton_inj.mp same]
        exact kept final (by simp)
      · intro action member
        exact kept action (by simp [member])
  · rintro (⟨m, rfl, blank⟩ | ⟨leaves, before, m, after, rfl, blank, kept⟩)
    · exact ⟨run, m, [], rfl, blank, nofun⟩
    · refine ⟨before, m, after ++ [last], by simp, blank, ?_⟩
      intro action member
      rcases List.mem_append.mp member with earlier | final
      · exact kept action earlier
      · rwa [List.mem_singleton.mp final]

/-- A blank name stands in an entry exactly if a run has left it there. -/
theorem isBlankIn_actAll (run : List RegistryAction) (type : ModelType)
    (facet : Registration.Facet) :
    (empty.actAll run).isBlankIn type facet = true ↔ LeavesBlank run type facet := by
  induction run using List.reverseRecOn with
  | nil =>
      refine iff_of_false Bool.false_ne_true ?_
      rintro ⟨before, m, after, parts, -⟩
      simp at parts
  | append_singleton run last ih =>
      rw [actAll_concat, isBlankIn_act, leavesBlank_concat, ← ih]
      cases last with
      | register call => simp
      | setMetadata other given =>
          by_cases same : other = type
          · simp [same, RegistryAction.writes]
          · simp [same, Ne.symm same, RegistryAction.writes]
      | clear => simp [RegistryAction.writes]

/-- What the entries of a registry keep, whatever was done to it.  The columns and the relations of
an entry are each filed under their own properties, and no property occurs twice.  The table of an
entry is absent or not blank unless metadata with a blank table were set for the type and the table
was not written since; and the same holds of the key. -/
theorem entries_of_actions (run : List RegistryAction)
    (built : ∀ type m, .setMetadata type m ∈ run -> m.IsBuilt) (type : ModelType)
    {m : ModelMetadata} (entry : (empty.actAll run).metadata? type = some m) :
    m.IsFiled
      ∧ (m.NamesTable ↔ ¬ LeavesBlank run type .table)
      ∧ (m.NamesKey ↔ ¬ LeavesBlank run type .primaryKey) := by
  have blank : ∀ facet, (empty.actAll run).isBlankIn type facet = m.isBlankIn facet := by
    intro facet
    rw [isBlankIn, entry, Option.any_some]
  refine ⟨isFiled_actAll built type m entry, ?_, ?_⟩
  · rw [← isBlankIn_actAll, blank, ModelMetadata.namesTable_iff]
  · rw [← isBlankIn_actAll, blank, ModelMetadata.namesKey_iff]

/-- The metadata of an airport whose key is given twice, and whose table and last key are blank. -/
def namelessAirport : ModelMetadata :=
  ((ModelMetadata.new " ").withPrimaryKey "code").withColumn (.new "code" "char")
    |>.withPrimaryKey "\t"

theorem isBuilt_namelessAirport : namelessAirport.IsBuilt :=
  .withPrimaryKey (.withColumn (.withPrimaryKey (.new " ") "code") (.new "code" "char")) "\t"

/-- Metadata without names are set; then a blank key is refused, the table is registered and the
column changed. -/
def renamedAirport : List RegistryAction :=
  let airport : ModelType := ⟨"app::Airport"⟩
  [.clear, .setMetadata airport namelessAirport, .register ⟨airport, .primaryKey ""⟩,
    .register ⟨airport, .table "airports"⟩,
    .register ⟨airport, .column ((ColumnMetadata.new "code" "char").column "iata")⟩]

theorem entries_of_renamedAirport :
    (∀ type m, .setMetadata type m ∈ renamedAirport -> m.IsBuilt)
      ∧ ∃ m, (empty.actAll renamedAirport).metadata? ⟨"app::Airport"⟩ = some m
        ∧ m.IsFiled ∧ m.NamesTable ∧ ¬ m.NamesKey := by
  have built : ∀ type m, .setMetadata type m ∈ renamedAirport -> m.IsBuilt := by
    intro type m member
    simp only [renamedAirport, List.mem_cons, reduceCtorEq, RegistryAction.setMetadata.injEq,
      List.not_mem_nil, or_false, false_or] at member
    rw [member.2]
    exact isBuilt_namelessAirport
  have entry : (empty.actAll renamedAirport).metadata? ⟨"app::Airport"⟩ = some
      { namelessAirport with
        tableName := "airports"
        columns := namelessAirport.columns.put "code"
          ((ColumnMetadata.new "code" "char").column "iata") } := by
    decide
  obtain ⟨filed, table, key⟩ := entries_of_actions renamedAirport built ⟨"app::Airport"⟩ entry
  refine ⟨built, _, entry, filed, table.mpr ?_, fun named => key.mp named ?_⟩
  · rw [← isBlankIn_actAll]
    decide
  · rw [← isBlankIn_actAll]
    decide

/-- It is not so that every entry has names that are absent or not blank: metadata are set as they
are. -/
theorem not_forall_names_of_actions :
    ¬ ∀ (run : List RegistryAction) (type : ModelType) (m : ModelMetadata),
      (∀ type m, .setMetadata type m ∈ run -> m.IsBuilt) ->
        (empty.actAll run).metadata? type = some m ->
          m.IsFiled ∧ m.NamesTable ∧ m.NamesKey := by
  intro claimed
  let run : List RegistryAction := [.setMetadata ⟨"app::Airport"⟩ namelessAirport]
  have built : ∀ type m, .setMetadata type m ∈ run -> m.IsBuilt := by
    intro type m member
    cases List.mem_singleton.mp member
    exact isBuilt_namelessAirport
  have names := claimed run ⟨"app::Airport"⟩ namelessAirport built rfl
  rcases names.2.1 with absent | solid
  · exact absurd absent (by decide)
  · exact absurd solid (by decide)

end Registry
end SqlGate
