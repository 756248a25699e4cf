import SqlGate.Proofs.Metadata.Sharing
import SqlGate.Proofs.Success

namespace SqlGate

/-!
# What a refused description leaves behind

A description stands for a run of registrations, and each of them is carried out
on its own: the run ends at the first one that is refused, and all before it
stay.  Only the table and the key can be refused, and they come first.  So a
refused description has changed nothing if it was its table that was blank, and
if it was its key, then the table of the type has been set and nothing else.
-/

namespace Registry

/-! ## Comparing registries by their answers -/

/-- Two registries tell the same about a type, whatever is asked. -/
structure AnswersAlike (r s : Registry) (type : ModelType) : Prop where
  metadata : s.metadata? type = r.metadata? type
  isRegistered : s.isRegistered type = r.isRegistered type
  tableName : s.tableName? type = r.tableName? type
  primaryKey : s.primaryKey? type = r.primaryKey? type
  column : ∀ property, s.column? type property = r.column? type property
  columns : s.columns type = r.columns type
  relationship : ∀ property, s.relationship? type property = r.relationship? type property
  relationships : s.relationships type = r.relationships type

/-- Two registries tell the same about every type, and how many there are. -/
structure Unchanged (r s : Registry) : Prop where
  alike : ∀ type, r.AnswersAlike s type
  size : s.size = r.size
  isEmpty : s.isEmpty = r.isEmpty

/-- The table of a type was set, and whatever else is asked about the type has the answer it had. -/
structure OnlyTableSet (r s : Registry) (type : ModelType) (table : String) : Prop where
  isRegistered : s.isRegistered type = true
  tableName : s.tableName? type = some table
  primaryKey : s.primaryKey? type = r.primaryKey? type
  column : ∀ property, s.column? type property = r.column? type property
  columns : s.columns type = r.columns type
  relationship : ∀ property, s.relationship? type property = r.relationship? type property
  relationships : s.relationships type = r.relationships type

variable {r s : Registry} {type : ModelType}

/-- All that is told about a type is read off its entry. -/
theorem answersAlike_of_metadata (same : s.metadata? type = r.metadata? type) :
    r.AnswersAlike s type where
  metadata := same
  isRegistered := by rw [isRegistered, isRegistered, same]
  tableName := by rw [tableName?, tableName?, same]
  primaryKey := by rw [primaryKey?, primaryKey?, same]
  column := fun property => by rw [column?, column?, same]
  columns := by rw [Registry.columns, Registry.columns, same]
  relationship := fun property => by rw [relationship?, relationship?, same]
  relationships := by rw [Registry.relationships, Registry.relationships, same]

theorem unchanged_iff : r.Unchanged s ↔ ∀ type, s.metadata? type = r.metadata? type := by
  refine ⟨fun unchanged type => (unchanged.alike type).metadata, fun same => ?_⟩
  have permuted := entries_perm same
  refine ⟨fun type => answersAlike_of_metadata (same type), permuted.length_eq, ?_⟩
  rw [isEmpty, isEmpty, Ordered.isEmpty, Ordered.isEmpty, permuted.isEmpty_eq]

theorem onlyTableSet_update (r : Registry) (type : ModelType) {table : String} (named : table ≠ "") :
    r.OnlyTableSet (r.update type (Registration.table table).applyTo) type table := by
  have entry : (r.update type (Registration.table table).applyTo).metadata? type
      = some { (r.metadata? type).getD {} with tableName := table } := by
    rw [metadata?_update, if_pos rfl]
    rfl
  have hasTable : ({ (r.metadata? type).getD {} with tableName := table } :
      ModelMetadata).hasTable = true := by
    simpa [ModelMetadata.hasTable] using named
  refine ⟨?_, ?_, ?_, ?_, ?_, ?_, ?_⟩
  · rw [isRegistered, entry]
    rfl
  · rw [tableName?, entry, Option.filter_some_pos hasTable]
    rfl
  · rw [primaryKey?, primaryKey?, entry]
    cases r.metadata? type <;> rfl
  · intro property
    rw [column?, column?, entry]
    cases r.metadata? type <;> rfl
  · rw [columns, columns, entry]
    cases r.metadata? type <;> rfl
  · intro property
    rw [relationship?, relationship?, entry]
    cases r.metadata? type <;> rfl
  · rw [relationships, relationships, entry]
    cases r.metadata? type <;> rfl

/-! ## Runs of registrations -/

theorem register_of_refused {registration : Registration} {failure : Failure}
    (refused : registration.refusal? type = some failure) :
    r.register type registration = (.error failure, r) := by
  rw [register, refused]

theorem register_of_accepted {registration : Registration}
    (accepted : registration.refusal? type = none) :
    r.register type registration = (.ok (), r.update type registration.applyTo) := by
  rw [register, accepted]

/-- A run of registrations that fails has carried out all those before the first that is refused,
and no other one. -/
theorem exists_refused_of_registerAll {run : List Registration} {failure : Failure}
    (failed : (r.registerAll type run).1 = .error failure) :
    ∃ accepted refused rest, run = accepted ++ refused :: rest
      ∧ (∀ registration ∈ accepted, registration.refusal? type = none)
      ∧ refused.refusal? type = some failure
      ∧ (r.registerAll type run).2
          = accepted.foldl (fun found registration => found.update type registration.applyTo) r := by
  induction run generalizing r with
  | nil => cases failed
  | cons first others ih =>
      cases verdict : first.refusal? type with
      | some reason =>
          rw [registerAll, register_of_refused verdict] at failed ⊢
          cases failed
          exact ⟨[], first, others, rfl, by simp, verdict, rfl⟩
      | none =>
          rw [registerAll, register_of_accepted verdict] at failed ⊢
          obtain ⟨accepted, refused, rest, rfl, allAccepted, reason, left⟩ := ih failed
          refine ⟨first :: accepted, refused, rest, rfl, ?_, reason, left⟩
          intro registration member
          rcases List.mem_cons.mp member with rfl | later
          · exact verdict
          · exact allAccepted registration later

/-! ## Descriptions -/

/-- Only the table and the key of a description can be refused, and the key comes right behind
the table. -/
theorem refused_of_description {d : ModelDescription} {accepted rest : List Registration}
    {refused : Registration} {failure : Failure}
    (stands : d.registrations = accepted ++ refused :: rest)
    (allAccepted : ∀ registration ∈ accepted, registration.refusal? type = none)
    (reason : refused.refusal? type = some failure) :
    (accepted = [] ∧ refused = .table d.table)
      ∨ ∃ key, d.primaryKey = some key ∧ accepted = [.table d.table]
          ∧ refused = .primaryKey key := by
  have harmless : refused ∉ d.columns.map Registration.column
      ++ d.relationships.map Registration.relationship := by
    intro member
    rcases List.mem_append.mp member with column | relation
    · obtain ⟨added, -, rfl⟩ := List.mem_map.mp column
      cases reason
    · obtain ⟨added, -, rfl⟩ := List.mem_map.mp relation
      cases reason
  rw [ModelDescription.registrations, List.append_assoc] at stands
  generalize d.columns.map Registration.column
    ++ d.relationships.map Registration.relationship = facets at harmless stands
  cases accepted with
  | nil => exact .inl ⟨rfl, (List.cons.inj stands).1.symm⟩
  | cons first others =>
      obtain ⟨rfl, further⟩ := List.cons.inj stands
      refine .inr ?_
      cases key : d.primaryKey with
      | none =>
          rw [key] at further
          have same : facets = others ++ refused :: rest := further
          exact absurd (by simp [same]) harmless
      | some key' =>
          rw [key] at further
          refine ⟨key', rfl, ?_⟩
          cases others with
          | nil => exact ⟨rfl, (List.cons.inj further).1.symm⟩
          | cons second more =>
              have same : facets = more ++ refused :: rest := (List.cons.inj further).2
              exact absurd (by simp [same]) harmless

theorem refusal?_table {table : String} {failure : Failure}
    (reason : (Registration.table table).refusal? type = some failure) :
    Text.isBlankText table = true
      ∧ failure = .invalidInput ("Table name for " ++ type.name ++ " must not be empty") := by
  simp only [Registration.refusal?, Option.ite_none_right_eq_some, Option.some.injEq] at reason
  exact ⟨reason.1, reason.2.symm⟩

theorem refusal?_primaryKey {key : String} {failure : Failure}
    (reason : (Registration.primaryKey key).refusal? type = some failure) :
    Text.isBlankText key = true
      ∧ failure = .invalidInput ("Primary key for " ++ type.name ++ " must not be empty") := by
  simp only [Registration.refusal?, Option.ite_none_right_eq_some, Option.some.injEq] at reason
  exact ⟨reason.1, reason.2.symm⟩

/-- A description fails at its table, and the registry stays the one it was, or it fails at its
key, and the table has been set. -/
theorem registerModel_error {d : ModelDescription} {failure : Failure}
    (failed : (r.registerModel type d).1 = .error failure) :
    (Text.isBlankText d.table = true
        ∧ failure = .invalidInput ("Table name for " ++ type.name ++ " must not be empty")
        ∧ (r.registerModel type d).2 = r)
      ∨ (Text.isBlankText d.table = false ∧ d.primaryKey.any Text.isBlankText = true
        ∧ failure = .invalidInput ("Primary key for " ++ type.name ++ " must not be empty")
        ∧ (r.registerModel type d).2 = r.update type (Registration.table d.table).applyTo) := by
  obtain ⟨accepted, refused, rest, stands, allAccepted, reason, left⟩ :=
    exists_refused_of_registerAll failed
  rcases refused_of_description stands allAccepted reason with
    ⟨rfl, rfl⟩ | ⟨key, keyed, rfl, rfl⟩
  · obtain ⟨blank, message⟩ := refusal?_table reason
    exact .inl ⟨blank, message, left⟩
  · obtain ⟨blank, message⟩ := refusal?_primaryKey reason
    have named : Text.isBlankText d.table = false := by
      have accepted := Registration.isSome_refusal? (.table d.table) type
      rw [allAccepted _ (List.mem_singleton_self _)] at accepted
      exact accepted.symm
    refine .inr ⟨named, ?_, message, left⟩
    rw [keyed]
    exact blank

/-- Setting the table that a type has already changes no answer, and nothing else does. -/
theorem unchanged_update_iff {table : String} (named : table ≠ "") :
    r.Unchanged (r.update type (Registration.table table).applyTo)
      ↔ r.tableName? type = some table := by
  rw [unchanged_iff]
  constructor
  · intro same
    have set := (onlyTableSet_update r type named).tableName
    rwa [tableName?, same type] at set
  · intro known other
    rw [metadata?_update]
    split
    · rename_i own
      rw [own]
      rw [tableName?, Option.map_eq_some_iff] at known
      obtain ⟨m, found, rfl⟩ := known
      rw [Option.filter_eq_some_iff] at found
      rw [found.1]
      rfl
    · rfl

/-- What a refused description leaves behind.  It fails for a blank table or a blank key, and in
either case no other type is touched.  If the table is blank, every answer is the one it was.  If
the key is, then the table has been set before, and all else that is asked about the type has the
answer it had.  So nothing has changed exactly if the table is blank, or is the one that the type
had. -/
theorem answers_of_refused_description (r : Registry) (type : ModelType) (d : ModelDescription)
    {failure : Failure} (failed : (r.registerModel type d).1 = .error failure) :
    (∀ other, other ≠ type -> r.AnswersAlike (r.registerModel type d).2 other)
    ∧ ((Text.isBlankText d.table = true
          ∧ failure = .invalidInput ("Table name for " ++ type.name ++ " must not be empty")
          ∧ r.Unchanged (r.registerModel type d).2)
        ∨ (Text.isBlankText d.table = false ∧ d.primaryKey.any Text.isBlankText = true
          ∧ failure = .invalidInput ("Primary key for " ++ type.name ++ " must not be empty")
          ∧ r.OnlyTableSet (r.registerModel type d).2 type d.table))
    ∧ (r.Unchanged (r.registerModel type d).2 ↔
        Text.isBlankText d.table = true ∨ r.tableName? type = some d.table) := by
  have same : r.Unchanged r := unchanged_iff.mpr fun _ => rfl
  rcases registerModel_error failed with ⟨blank, message, left⟩ | ⟨named, blank, message, left⟩
  · rw [left]
    exact ⟨fun other _ => same.alike other, .inl ⟨blank, message, same⟩,
      fun _ => .inl blank, fun _ => same⟩
  · have nonempty : d.table ≠ "" := by
      rintro empty
      rw [empty] at named
      cases named
    rw [left]
    refine ⟨?_, .inr ⟨named, blank, message, onlyTableSet_update r type nonempty⟩, ?_⟩
    · intro other elsewhere
      refine answersAlike_of_metadata ?_
      rw [metadata?_update, if_neg elsewhere]
    · rw [unchanged_update_iff nonempty, named]
      simp

/-- A description whose key is blank. -/
def keylessAirport : ModelDescription :=
  { table := "airports", primaryKey := some " ", columns := [.new "code" "char"] }

theorem answers_of_keylessAirport :
    (empty.registerModel ⟨"app::Airport"⟩ keylessAirport).1
        = .error (.invalidInput "Primary key for app::Airport must not be empty")
      ∧ empty.OnlyTableSet (empty.registerModel ⟨"app::Airport"⟩ keylessAirport).2
          ⟨"app::Airport"⟩ "airports"
      ∧ ¬ empty.Unchanged (empty.registerModel ⟨"app::Airport"⟩ keylessAirport).2 := by
  have failed : (empty.registerModel ⟨"app::Airport"⟩ keylessAirport).1
      = .error (.invalidInput "Primary key for app::Airport must not be empty") := by rfl
  have named : Text.isBlankText keylessAirport.table = false := by decide
  have unknown : empty.tableName? ⟨"app::Airport"⟩ = none := rfl
  obtain ⟨-, parts, unchanged⟩ :=
    answers_of_refused_description empty ⟨"app::Airport"⟩ keylessAirport failed
  rw [named, unknown] at unchanged
  rcases parts with ⟨blank, -⟩ | ⟨-, -, -, set⟩
  · exact absurd blank (by rw [named]; decide)
  · exact ⟨failed, set, fun same => by simpa using unchanged.mp same⟩

/-- It is not so that a refused description leaves every answer as it was: the table of a type
that was not known remains. -/
theorem not_forall_unchanged_of_refused :
    ¬ ∀ (r : Registry) (type : ModelType) (d : ModelDescription) (failure : Failure),
      (r.registerModel type d).1 = .error failure -> r.Unchanged (r.registerModel type d).2 := by
  intro claimed
  have same := claimed empty ⟨"app::Airport"⟩ keylessAirport _ rfl
  have before : empty.isRegistered ⟨"app::Airport"⟩ = false := rfl
  have after : (empty.registerModel ⟨"app::Airport"⟩ keylessAirport).2.isRegistered
      ⟨"app::Airport"⟩ = true := by decide
  have impossible := (same.alike ⟨"app::Airport"⟩).isRegistered
  rw [before, after] at impossible
  cases impossible

end Registry
end SqlGate
