import SqlGate.Metadata.Registry
import SqlGate.Proofs.SameOrder

namespace SqlGate

/-!
# Callers that share a registry

Several callers may register types on one registry.  A registration has the
registry for itself while it changes an entry, so the callers take turns, and
nothing is known about whose turn comes next.

What comes out can be told from the run of registrations alone, and from very
little of it.  A blank table or key counts for nothing; of the rest, the entry
of a type depends on the registrations for this type only, its table and its
key on the last registration of their kind, and each column and relation on the
last one for its property, while its place is that of the first one.  So two
runs that give every kind of registration of every type the same order end in
the same registry, however they differ otherwise.
-/

/-! ## Maps that are entered one pair after another -/

namespace Ordered

variable {α : Type}

/-- Behind the keys that were there stand the new ones, each where it came in first. -/
theorem keys_putAll (m : Ordered α) (pairs : List (String × α)) :
    (m.putAll pairs).keys
      = m.keys ++ ((pairs.map Prod.fst).filter fun key => decide (key ∉ m.keys)).eraseDups := by
  induction pairs generalizing m with
  | nil => simp
  | cons pair rest ih =>
      rw [putAll_cons, ih, keys_put]
      by_cases known : pair.1 ∈ m.keys
      · simp [known]
      · have later : ((rest.map Prod.fst).filter fun key => decide (key ∉ m.keys ++ [pair.1]))
            = ((rest.map Prod.fst).filter fun key => decide (key ∉ m.keys)).filter
                fun key => !key == pair.1 := by
          rw [List.filter_filter]
          refine List.filter_congr ?_
          intro key _
          by_cases same : key = pair.1
          · simp [same]
          · simp [same]
        rw [if_neg known, later, List.map_cons, List.filter_cons_of_pos (by simpa using known),
          List.eraseDups_cons, List.append_assoc]
        rfl

/-- The keys of a list of pairs, each where it came up first. -/
theorem keys_ofList (pairs : List (String × α)) :
    (ofList pairs).keys = (pairs.map Prod.fst).eraseDups := by
  have fresh : (pairs.map Prod.fst).filter (fun key => decide (key ∉ (empty : Ordered α).keys))
      = pairs.map Prod.fst := List.filter_eq_self.mpr fun key _ => by simp
  rw [ofList, keys_putAll, fresh]
  rfl

/-- A key has the value of the last pair that carries it, or else the one it had. -/
theorem get?_putAll (m : Ordered α) (pairs : List (String × α)) (key : String) :
    (m.putAll pairs).get? key
      = ((pairs.filter fun pair => decide (pair.1 = key)).getLast?.map Prod.snd).or
          (m.get? key) := by
  induction pairs generalizing m with
  | nil => simp
  | cons pair rest ih =>
      rw [putAll_cons, ih, get?_put]
      by_cases same : pair.1 = key
      · rw [if_pos same.symm, List.filter_cons_of_pos (by simpa using same), List.getLast?_cons]
        cases (rest.filter fun pair => decide (pair.1 = key)).getLast? <;> rfl
      · rw [if_neg (Ne.symm same), List.filter_cons_of_neg (by simpa using same)]

/-- A map holds a history of named things: each name once, in the order in which the names came
up first, and under each name the last thing of that name. -/
structure Holds (m : Ordered α) (name : α -> String) (history : List α) : Prop where
  keys : m.keys = (history.map name).eraseDups
  get? : ∀ key, m.get? key = (history.filter fun thing => decide (name thing = key)).getLast?

theorem holds_putAll (name : α -> String) (history : List α) :
    (empty.putAll (history.map fun thing => (name thing, thing))).Holds name history where
  keys := by
    rw [← ofList, keys_ofList, List.map_map]
    rfl
  get? := by
    intro key
    rw [get?_putAll, List.filter_map, List.getLast?_map, Option.map_map]
    have absent : (empty : Ordered α).get? key = none := rfl
    rw [absent, Option.or_none]
    exact Option.map_id_apply

end Ordered

/-! ## What registrations make of an entry -/

namespace Registration

/-- The kinds of registrations, which write different parts of an entry. -/
inductive Facet where
  | table
  | primaryKey
  | column
  | relationship
deriving DecidableEq, Repr

def facet : Registration -> Facet
  | .table _ => .table
  | .primaryKey _ => .primaryKey
  | .column _ => .column
  | .relationship _ => .relationship

/-- Whether a registration is of a blank table or a blank key. -/
def isBlank : Registration -> Bool
  | .table name => Text.isBlankText name
  | .primaryKey property => Text.isBlankText property
  | .column _ | .relationship _ => false

/-- Exactly the blank registrations are refused, whatever type they are for. -/
theorem isSome_refusal? (registration : Registration) (type : ModelType) :
    (registration.refusal? type).isSome = registration.isBlank := by
  cases registration with
  | table name =>
      by_cases blank : Text.isBlankText name = true
      · simp [refusal?, isBlank, blank]
      · simp [refusal?, isBlank, blank]
  | primaryKey property =>
      by_cases blank : Text.isBlankText property = true
      · simp [refusal?, isBlank, blank]
      · simp [refusal?, isBlank, blank]
  | column added => rfl
  | relationship added => rfl

/-- The table that is registered, if it is one. -/
def table? : Registration -> Option String
  | .table name => some name
  | _ => none

/-- The key that is registered, if it is one. -/
def primaryKey? : Registration -> Option String
  | .primaryKey property => some property
  | _ => none

/-- The column that is registered, if it is one. -/
def column? : Registration -> Option ColumnMetadata
  | .column added => some added
  | _ => none

/-- The relation that is registered, if it is one. -/
def relationship? : Registration -> Option RelationshipMetadata
  | .relationship added => some added
  | _ => none

section

variable {registration : Registration}

theorem table?_eq_none (other : registration.facet ≠ .table) : registration.table? = none := by
  cases registration with
  | table name => exact absurd rfl other
  | _ => rfl

theorem primaryKey?_eq_none (other : registration.facet ≠ .primaryKey) :
    registration.primaryKey? = none := by
  cases registration with
  | primaryKey property => exact absurd rfl other
  | _ => rfl

theorem column?_eq_none (other : registration.facet ≠ .column) : registration.column? = none := by
  cases registration with
  | column added => exact absurd rfl other
  | _ => rfl

theorem relationship?_eq_none (other : registration.facet ≠ .relationship) :
    registration.relationship? = none := by
  cases registration with
  | relationship added => exact absurd rfl other
  | _ => rfl

end

end Registration

namespace ModelMetadata

/-- The entry after a history of registrations, part by part. -/
theorem foldl_applyTo (m : ModelMetadata) (history : List Registration) :
    history.foldl Registration.applyTo m
      = { tableName := (history.filterMap Registration.table?).getLast?.getD m.tableName
          primaryKey := (history.filterMap Registration.primaryKey?).getLast?.or m.primaryKey
          columns := m.columns.putAll
            ((history.filterMap Registration.column?).map fun column => (column.property, column))
          relationships := m.relationships.putAll
            ((history.filterMap Registration.relationship?).map fun relationship =>
              (relationship.property, relationship)) } := by
  induction history generalizing m with
  | nil => rfl
  | cons registration rest ih =>
      rw [List.foldl_cons, ih]
      cases registration with
      | table name =>
          have last : ((.table name :: rest).filterMap Registration.table?).getLast?
              = some ((rest.filterMap Registration.table?).getLast?.getD name) := List.getLast?_cons
          rw [last]
          rfl
      | primaryKey property =>
          have last : ((.primaryKey property :: rest).filterMap Registration.primaryKey?).getLast?
              = some ((rest.filterMap Registration.primaryKey?).getLast?.getD property) :=
            List.getLast?_cons
          rw [last]
          cases (rest.filterMap Registration.primaryKey?).getLast? <;> rfl
      | column added => rfl
      | relationship added => rfl

end ModelMetadata

/-! ## Runs -/

/-- A registration for a type, as a caller issues it. -/
structure RegistryCall where
  type : ModelType
  registration : Registration
deriving DecidableEq, Repr

namespace RegistryCall

def countsFor (type : ModelType) (call : RegistryCall) : Bool :=
  decide (call.type = type) && !call.registration.isBlank

def facet (call : RegistryCall) : ModelType × Registration.Facet :=
  (call.type, call.registration.facet)

end RegistryCall

namespace Registry

/-- The registry that a call leaves, whether it was accepted or not. -/
def perform (r : Registry) (call : RegistryCall) : Registry :=
  (r.register call.type call.registration).2

def performAll (r : Registry) (run : List RegistryCall) : Registry :=
  run.foldl perform r

/-- Callers take turns: `Turns callers r run final` if the calls of `run`, issued one after
another by any of the callers, each of whom keeps its own order, lead from `r` to `final`. -/
inductive Turns :
    List (List RegistryCall) -> Registry -> List RegistryCall -> Registry -> Prop where
  | none (callers : List (List RegistryCall)) (r : Registry) : Turns callers r [] r
  | next (before after : List (List RegistryCall)) (call : RegistryCall)
      (others : List RegistryCall) {r final : Registry} {run : List RegistryCall}
      (further : Turns (before ++ others :: after) (r.perform call) run final) :
      Turns (before ++ (call :: others) :: after) r (call :: run) final

theorem Turns.eq_performAll {callers : List (List RegistryCall)} {r final : Registry}
    {run : List RegistryCall} (turns : Turns callers r run final) : final = r.performAll run := by
  induction turns with
  | none callers r => rfl
  | next before after call others further ih => exact ih

/-- The registrations that count for a type, in order. -/
def history (run : List RegistryCall) (type : ModelType) : List Registration :=
  (run.filter (RegistryCall.countsFor type)).map RegistryCall.registration

theorem metadata?_perform (r : Registry) (call : RegistryCall) (type : ModelType) :
    (r.perform call).metadata? type
      = if call.countsFor type then
          some (call.registration.applyTo ((r.metadata? type).getD {}))
        else r.metadata? type := by
  have blank := call.registration.isSome_refusal? call.type
  unfold perform register RegistryCall.countsFor
  rw [← blank]
  cases call.registration.refusal? call.type with
  | some failure => simp
  | none =>
      dsimp only
      rw [metadata?_update]
      by_cases same : call.type = type
      · simp [same]
      · simp [same, Ne.symm same]

/-- The entry of a type comes from the registrations that count for it, and from nothing else. -/
theorem metadata?_performAll (r : Registry) (run : List RegistryCall) (type : ModelType) :
    (r.performAll run).metadata? type
      = if history run type = [] then r.metadata? type
        else some ((history run type).foldl Registration.applyTo
          ((r.metadata? type).getD {})) := by
  induction run generalizing r with
  | nil => rfl
  | cons call rest ih =>
      change ((r.perform call).performAll rest).metadata? type = _
      rw [ih, metadata?_perform]
      cases own : call.countsFor type with
      | true =>
          have grown : history (call :: rest) type = call.registration :: history rest type := by
            rw [history, List.filter_cons_of_pos own, List.map_cons, history]
          rw [grown, if_pos rfl, if_neg (List.cons_ne_nil _ _), List.foldl_cons, Option.getD_some]
          split
          · rename_i last
            rw [last, List.foldl_nil]
          · rfl
      | false =>
          have same : history (call :: rest) type = history rest type := by
            rw [history, List.filter_cons_of_neg (ne_true_of_eq_false own), history]
          rw [same, if_neg Bool.false_ne_true]

/-- What a run is worth for a type: a registry shows this of it and nothing more. -/
structure Reflects (r : Registry) (run : List RegistryCall) (type : ModelType) : Prop where
  /-- There is an entry as soon as one registration was accepted. -/
  registered : r.isRegistered type = !(history run type).isEmpty
  /-- The table registered last, or none. -/
  table : ((r.metadata? type).getD {}).tableName
    = ((history run type).filterMap Registration.table?).getLast?.getD ""
  /-- The key registered last, or none. -/
  primaryKey : ((r.metadata? type).getD {}).primaryKey
    = ((history run type).filterMap Registration.primaryKey?).getLast?
  columns : ((r.metadata? type).getD {}).columns.Holds ColumnMetadata.property
    ((history run type).filterMap Registration.column?)
  relationships : ((r.metadata? type).getD {}).relationships.Holds
    RelationshipMetadata.property ((history run type).filterMap Registration.relationship?)

variable {run other : List RegistryCall} {type : ModelType}

theorem reflects_performAll (run : List RegistryCall) (type : ModelType) :
    (empty.performAll run).Reflects run type := by
  have entry := metadata?_performAll empty run type
  have nothing : empty.metadata? type = none := rfl
  have known : ((empty.performAll run).metadata? type).getD {}
      = (history run type).foldl Registration.applyTo {} := by
    rw [entry, nothing]
    split
    · rename_i none
      rw [none]
      rfl
    · rfl
  refine ⟨?_, ?_, ?_, ?_, ?_⟩
  · rw [isRegistered, entry, nothing]
    cases history run type <;> rfl
  · rw [known, ModelMetadata.foldl_applyTo]
  · rw [known, ModelMetadata.foldl_applyTo]
    exact Option.or_none
  · rw [known, ModelMetadata.foldl_applyTo]
    exact Ordered.holds_putAll ColumnMetadata.property _
  · rw [known, ModelMetadata.foldl_applyTo]
    exact Ordered.holds_putAll RelationshipMetadata.property _

/-! ## Runs that differ in order -/

section

variable (same : SameOrder RegistryCall.facet run other) (type : ModelType)

include same

/-- What one kind of registration says about a type, it says in the same order. -/
theorem filterMap_history_eq {β : Type} (facet : Registration.Facet)
    {part : Registration -> Option β}
    (only : ∀ registration, registration.facet ≠ facet -> part registration = none) :
    (history run type).filterMap part = (history other type).filterMap part := by
  unfold history
  rw [List.filterMap_map, List.filterMap_map, List.filterMap_filter, List.filterMap_filter]
  refine same.filterMap_eq (type, facet) ?_
  intro call elsewhere
  by_cases own : call.countsFor type = true
  · have ofType : call.type = type := by
      simp only [RegistryCall.countsFor, Bool.and_eq_true, decide_eq_true_eq] at own
      exact own.1
    have otherKind : call.registration.facet ≠ facet := fun ofKind =>
      elsewhere (Prod.ext ofType ofKind)
    rw [if_pos own]
    exact only call.registration otherKind
  · exact if_neg own

theorem history_eq_nil (none : history other type = []) : history run type = [] := by
  unfold history at none ⊢
  rw [List.map_eq_nil_iff, List.filter_eq_nil_iff] at none ⊢
  intro call member
  exact none call (same.mem member)

/-- Runs of the same order leave the same entry for every type. -/
theorem metadata?_performAll_eq :
    (empty.performAll run).metadata? type = (empty.performAll other).metadata? type := by
  rw [metadata?_performAll, metadata?_performAll]
  by_cases none : history other type = []
  · rw [if_pos none, if_pos (history_eq_nil same type none)]
  · have further : history run type ≠ [] := fun nothing =>
      none (history_eq_nil same.symm type nothing)
    rw [if_neg none, if_neg further, ModelMetadata.foldl_applyTo, ModelMetadata.foldl_applyTo,
      filterMap_history_eq same type .table fun _ => Registration.table?_eq_none,
      filterMap_history_eq same type .primaryKey fun _ => Registration.primaryKey?_eq_none,
      filterMap_history_eq same type .column fun _ => Registration.column?_eq_none,
      filterMap_history_eq same type .relationship fun _ => Registration.relationship?_eq_none]

end

/-- Registries with the same entry for every type hold the same entries. -/
theorem entries_perm {r s : Registry} (same : ∀ type, r.metadata? type = s.metadata? type) :
    r.entries.entries.Perm s.entries.entries := by
  -- Types are registered in different orders, so the entries agree only up to their places.
  have apart : ∀ entries : Ordered ModelMetadata TypeId, entries.entries.Nodup := fun entries =>
    (List.pairwise_map.mp entries.nodup).imp fun different same =>
      different (congrArg Prod.fst same)
  refine (List.perm_ext_iff_of_nodup (apart r.entries) (apart s.entries)).mpr ?_
  rintro ⟨id, m⟩
  have found : r.entries.get? id = s.entries.get? id := same ⟨id⟩
  rw [← Ordered.get?_eq_some_iff, ← Ordered.get?_eq_some_iff, found]

/-! ## Callers -/

/-- Whoever takes part and whoever's turn it was, a shared registry reflects the run.

At every moment the entry of a type is what the run is worth for it: nothing if
no registration for it counted, and else the table and the key registered last,
and the columns and relations by property, in the order in which the properties
came up and each as registered last.  Two runs, be it of the same callers or of
others, that keep the order of the calls of each kind for each type end with the
same entries. -/
theorem reflects_of_turns {callers : List (List RegistryCall)} {run : List RegistryCall}
    {r : Registry} (turns : Turns callers empty run r) :
    (∀ type, r.Reflects run type)
      ∧ ∀ (others : List (List RegistryCall)) (other : List RegistryCall) (s : Registry),
          Turns others empty other s -> SameOrder RegistryCall.facet run other ->
            (∀ type, r.metadata? type = s.metadata? type)
              ∧ r.entries.entries.Perm s.entries.entries := by
  have ended : r = empty.performAll run := turns.eq_performAll
  subst ended
  refine ⟨reflects_performAll run, ?_⟩
  intro others other s otherTurns same
  have otherEnded : s = empty.performAll other := otherTurns.eq_performAll
  subst otherEnded
  have alike := metadata?_performAll_eq same
  exact ⟨alike, entries_perm alike⟩

/-- Two callers that register the airport of a flight: the second one begins with a blank table
and changes the column that the first one registers. -/
def twoCallers : List (List RegistryCall) :=
  let airport : ModelType := ⟨"Airport"⟩
  [[⟨airport, .column (.new "code" "char")⟩, ⟨airport, .table "airports"⟩,
      ⟨⟨"Flight"⟩, .primaryKey "id"⟩],
    [⟨airport, .primaryKey " "⟩, ⟨airport, .column (.new "city" "text")⟩,
      ⟨airport, .column (.new "code" "varchar")⟩]]

/-- The first caller comes first. -/
def inTurn : List RegistryCall :=
  twoCallers.flatten

/-- The second caller gets in between. -/
def inBetween : List RegistryCall :=
  let airport : ModelType := ⟨"Airport"⟩
  [⟨airport, .primaryKey " "⟩, ⟨airport, .column (.new "code" "char")⟩,
    ⟨airport, .column (.new "city" "text")⟩, ⟨airport, .table "airports"⟩,
    ⟨airport, .column (.new "code" "varchar")⟩, ⟨⟨"Flight"⟩, .primaryKey "id"⟩]

theorem reflects_of_twoCallers :
    Turns twoCallers empty inTurn (empty.performAll inTurn)
      ∧ Turns twoCallers empty inBetween (empty.performAll inBetween)
      ∧ SameOrder RegistryCall.facet inTurn inBetween
      ∧ (empty.performAll inTurn).metadata? ⟨"Airport"⟩
          = (empty.performAll inBetween).metadata? ⟨"Airport"⟩
      ∧ (((empty.performAll inTurn).metadata? ⟨"Airport"⟩).getD {}).tableName = "airports"
      ∧ (((empty.performAll inTurn).metadata? ⟨"Airport"⟩).getD {}).primaryKey = none
      ∧ (((empty.performAll inTurn).metadata? ⟨"Airport"⟩).getD {}).columns.keys
          = ["code", "city"] := by
  have first : Turns twoCallers empty inTurn (empty.performAll inTurn) := by
    refine .next [] _ _ _ (.next [] _ _ _ (.next [] _ _ _ ?_))
    exact .next [[]] [] _ _ (.next [[]] [] _ _ (.next [[]] [] _ _ (.none _ _)))
  have second : Turns twoCallers empty inBetween (empty.performAll inBetween) := by
    refine .next [_] [] _ _ (.next [] _ _ _ (.next [_] [] _ _ (.next [] _ _ _ ?_)))
    exact .next [_] [] _ _ (.next [] _ _ _ (.none _ _))
  have same : SameOrder RegistryCall.facet inTurn inBetween := by
    rintro ⟨type, facet⟩
    by_cases airport : (⟨"Airport"⟩ : ModelType) = type
    · subst airport
      cases facet <;> decide
    · simp [inTurn, twoCallers, inBetween, RegistryCall.facet, List.filter_cons, airport]
  have reflects := reflects_of_turns first
  refine ⟨first, second, same, (reflects.2 _ _ _ second same).1 _, ?_, ?_, ?_⟩
  · exact (reflects.1 ⟨"Airport"⟩).table
  · exact (reflects.1 ⟨"Airport"⟩).primaryKey
  · exact (reflects.1 ⟨"Airport"⟩).columns.keys

end Registry
end SqlGate
