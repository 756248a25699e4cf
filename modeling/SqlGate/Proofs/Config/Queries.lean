import SqlGate.Proofs.Config.Passwords
import SqlGate.Proofs.SameOrder
import SqlGate.Proofs.Text.Digits

namespace SqlGate

/-!
# What the query of a URL sets

The pairs of a query are taken one after another: a pair with the key of an
option, in any case, replaces the value that the option had, and every other
pair is kept.  So an option has the value of the last pair that names it, and
nothing of a query is passed over: a pair that names no option makes the URL one
that is refused.  The order of pairs matters only among those with one key.
-/

namespace PoolOptions

/-! ## Keys -/

theorem lower_eq_lower_iff {s t : String} :
    Text.lower s = Text.lower t ↔ Text.sameIgnoringCase s t = true := by
  rw [← String.toList_inj, Text.toList_lower, Text.toList_lower, Text.sameIgnoringCase, beq_iff_eq]

theorem lower_queryKeys : ∀ key ∈ queryKeys, Text.lower key = key := by decide

/-- Whether a pair has the key of an option, in any case. -/
def namesOption (pair : String × String) : Bool :=
  ["max_connections", "min_connections", "idle_timeout", "acquire_timeout",
    "test_before_acquire"].any fun key => Text.sameIgnoringCase pair.1 key

theorem lower_eq_iff {s key : String} (known : key ∈ queryKeys) :
    Text.lower s = key ↔ Text.sameIgnoringCase s key = true := by
  rw [← lower_eq_lower_iff, lower_queryKeys key known]

theorem contains_lower (pair : String × String) :
    queryKeys.contains (Text.lower pair.1) = namesOption pair := by
  rw [Bool.eq_iff_iff, List.contains_iff_mem, namesOption, ← queryKeys, List.any_eq_true]
  constructor
  · exact fun known => ⟨_, known, (lower_eq_iff known).mp rfl⟩
  · rintro ⟨key, known, same⟩
    rwa [(lower_eq_iff known).mpr same]

/-! ## Taking pairs -/

/-- The value of the last pair with a key, in any case. -/
def lastValue? (pairs : List (String × String)) (key : String) : Option String :=
  (pairs.filter fun pair => Text.sameIgnoringCase pair.1 key).getLast?.map Prod.snd

/-- A truth value in any case. -/
def IsTruthText (s : String) (b : Bool) : Prop :=
  Text.lower s = if b then "true" else "false"

/-- The pool options that a query sets.  Each has what the last value with its key writes, and is
not set by a value that writes nothing: a number of connections or seconds, in as many bits as the
option has, or a truth value. -/
structure AreGiven (pairs : List (String × String)) (options : PoolOptions) : Prop where
  maxConnections : ∀ n, options.maxConnections = some n
    ↔ ∃ s, lastValue? pairs "max_connections" = some s ∧ Text.IsDecimal s n.toNat
  minConnections : ∀ n, options.minConnections = some n
    ↔ ∃ s, lastValue? pairs "min_connections" = some s ∧ Text.IsDecimal s n.toNat
  idleTimeout : ∀ n, options.idleTimeout = some n
    ↔ ∃ s, lastValue? pairs "idle_timeout" = some s ∧ Text.IsDecimal s n.toNat
  acquireTimeout : ∀ n, options.acquireTimeout = some n
    ↔ ∃ s, lastValue? pairs "acquire_timeout" = some s ∧ Text.IsDecimal s n.toNat
  testBeforeAcquire : ∀ b, options.testBeforeAcquire = some b
    ↔ ∃ s, lastValue? pairs "test_before_acquire" = some s ∧ IsTruthText s b

/-- The pool options that are read from the last values of a query. -/
def given (pairs : List (String × String)) : PoolOptions :=
  ofValues (lastValue? pairs)

/-! ## Values -/

theorem uint32Word?_eq_some_iff {s : String} {n : UInt32} :
    uint32Word? s = some n ↔ Text.IsDecimal s n.toNat := by
  rw [uint32Word?, Option.map_eq_some_iff]
  constructor
  · rintro ⟨value, read, rfl⟩
    rcases Text.unsigned?_eq_some_iff.mp read with ⟨writes, fits⟩
    rwa [UInt32.toNat_ofNat_of_lt' fits]
  · intro writes
    exact ⟨n.toNat, Text.unsigned?_eq_some_iff.mpr ⟨writes, n.toNat_lt⟩, UInt32.ofNat_toNat⟩

theorem uint64Word?_eq_some_iff {s : String} {n : UInt64} :
    uint64Word? s = some n ↔ Text.IsDecimal s n.toNat := by
  rw [uint64Word?, Option.map_eq_some_iff]
  constructor
  · rintro ⟨value, read, rfl⟩
    rcases Text.unsigned?_eq_some_iff.mp read with ⟨writes, fits⟩
    rwa [UInt64.toNat_ofNat_of_lt' fits]
  · intro writes
    exact ⟨n.toNat, Text.unsigned?_eq_some_iff.mpr ⟨writes, n.toNat_lt⟩, UInt64.ofNat_toNat⟩

theorem truthWord?_eq_some_iff {s : String} {b : Bool} :
    truthWord? s = some b ↔ IsTruthText s b := by
  have same : ∀ word, Text.lower word = word ->
      (Text.sameIgnoringCase s word = true ↔ Text.lower s = word) := by
    intro word low
    rw [← lower_eq_lower_iff, low]
  rw [truthWord?, IsTruthText]
  split
  · rename_i isTrue
    rw [(same "true" (by decide)).mp isTrue]
    cases b <;> simp
  · rename_i noTrue
    rw [same "true" (by decide)] at noTrue
    split
    · rename_i isFalse
      rw [(same "false" (by decide)).mp isFalse]
      cases b <;> simp
    · rename_i noFalse
      rw [same "false" (by decide)] at noFalse
      cases b <;> simp [noTrue, noFalse]

/-- What is read of a value that may be there is what the value writes. -/
theorem eq_bind_iff {α : Type} {read : String -> Option α} {writes : String -> α -> Prop}
    (reads : ∀ s a, read s = some a ↔ writes s a) (value : Option String) (found : Option α) :
    found = value.bind read ↔ ∀ a, found = some a ↔ ∃ s, value = some s ∧ writes s a := by
  rw [Option.ext_iff]
  apply forall_congr'
  intro a
  rw [Option.bind_eq_some_iff]
  simp only [reads]

/-- The options that are read are those that the query sets, and no others. -/
theorem areGiven_iff {pairs : List (String × String)} {options : PoolOptions} :
    AreGiven pairs options ↔ options = given pairs := by
  have narrow := eq_bind_iff fun s n => @uint32Word?_eq_some_iff s n
  have wide := eq_bind_iff fun s n => @uint64Word?_eq_some_iff s n
  have truth := eq_bind_iff fun s b => @truthWord?_eq_some_iff s b
  constructor
  · rintro ⟨max, min, idle, acquire, test⟩
    rcases options
    rw [given, ofValues, mk.injEq]
    exact ⟨(narrow _ _).mpr max, (narrow _ _).mpr min, (wide _ _).mpr idle,
      (wide _ _).mpr acquire, (truth _ _).mpr test⟩
  · rintro rfl
    constructor
    · exact (narrow _ _).mp rfl
    · exact (narrow _ _).mp rfl
    · exact (wide _ _).mp rfl
    · exact (wide _ _).mp rfl
    · exact (truth _ _).mp rfl

theorem get?_take (found : Extraction) (pair : String × String) {key : String}
    (known : key ∈ queryKeys) :
    (found.take pair).options.get? key
      = if Text.sameIgnoringCase pair.1 key then some pair.2 else found.options.get? key := by
  rw [Extraction.take, contains_lower]
  by_cases same : Text.sameIgnoringCase pair.1 key = true
  · have names : namesOption pair = true := List.any_eq_true.mpr ⟨key, known, same⟩
    rw [if_pos names, if_pos same, Ordered.get?_put, (lower_eq_iff known).mpr same, if_pos rfl]
  · have differs : key ≠ Text.lower pair.1 := fun equal => same ((lower_eq_iff known).mp equal.symm)
    rw [if_neg same]
    split
    · rw [Ordered.get?_put, if_neg differs]
    · rfl

theorem others_take (found : Extraction) (pair : String × String) :
    (found.take pair).others
      = if namesOption pair then found.others else found.others ++ [pair] := by
  rw [Extraction.take, contains_lower]
  split
  · rfl
  · rfl

/-- An option has the value of the last pair that names it. -/
theorem get?_extract (pairs : List (String × String)) {key : String} (known : key ∈ queryKeys) :
    (extract pairs).options.get? key = lastValue? pairs key := by
  induction pairs using List.reverseRecOn with
  | nil => rfl
  | append_singleton pairs last ih =>
      have taken : extract (pairs ++ [last]) = (extract pairs).take last := List.foldl_concat ..
      rw [taken, get?_take _ _ known, ih, lastValue?, lastValue?, List.filter_append,
        List.filter_singleton]
      cases Text.sameIgnoringCase last.1 key with
      | true =>
          rw [if_pos rfl, cond_true, List.getLast?_concat]
          rfl
      | false => rw [if_neg Bool.false_ne_true, cond_false, List.append_nil]

/-- The pairs that name no option are kept, in their order. -/
theorem others_extract (pairs : List (String × String)) :
    (extract pairs).others = pairs.filter fun pair => !namesOption pair := by
  induction pairs using List.reverseRecOn with
  | nil => rfl
  | append_singleton pairs last ih =>
      have taken : extract (pairs ++ [last]) = (extract pairs).take last := List.foldl_concat ..
      rw [taken, others_take, ih, List.filter_append, List.filter_singleton]
      cases namesOption last with
      | true => exact (List.append_nil _).symm
      | false => rfl

theorem ofValues_get?_extract (pairs : List (String × String)) :
    ofValues (extract pairs).options.get? = given pairs := by
  have values : ∀ key ∈ queryKeys, (extract pairs).options.get? key = lastValue? pairs key :=
    fun _ known => get?_extract pairs known
  simp only [queryKeys, List.forall_mem_cons] at values
  obtain ⟨max, min, idle, acquire, test, -⟩ := values
  rw [given, ofValues, ofValues, max, min, idle, acquire, test]

/-! ## Other orders -/

section

variable {pairs other : List (String × String)}
  (same : SameOrder (fun pair => Text.lower pair.1) pairs other)

include same

theorem lastValue?_eq_of_sameOrder (key : String) :
    lastValue? pairs key = lastValue? other key := by
  have keys : ∀ pair : String × String, Text.sameIgnoringCase pair.1 key
      = decide (Text.lower pair.1 = Text.lower key) := by
    intro pair
    rw [Bool.eq_iff_iff, decide_eq_true_eq, lower_eq_lower_iff]
  simp only [lastValue?, keys]
  rw [same (Text.lower key)]

theorem isEmpty_others_of_sameOrder :
    (extract pairs).others.isEmpty = (extract other).others.isEmpty := by
  rw [others_extract, others_extract, Bool.eq_iff_iff, List.isEmpty_iff, List.isEmpty_iff,
    List.filter_eq_nil_iff, List.filter_eq_nil_iff]
  constructor
  · exact fun none pair member => none pair (same.symm.mem member)
  · exact fun none pair member => none pair (same.mem member)

end

end PoolOptions

/-! ## Reading a URL -/

namespace ConnectionConfig

open PoolOptions (given namesOption)

variable {kind : DatabaseKind} {url : Url} {pool : PoolOptions}

/-- The configuration of a URL whose query has been taken away. -/
def ofTarget (kind : DatabaseKind) (url : Url) (pool : PoolOptions) :
    Except ConfigFault ConnectionConfig :=
  match kind with
  | .postgres => ofServerUrl url pool
  | .sqlite => ofFileUrl url pool

theorem ofTarget_cases (kind : DatabaseKind) (url : Url) (pool : PoolOptions) :
    ofTarget kind url pool = .error .missingDatabase
      ∨ ∃ config, ofTarget kind url pool = .ok config ∧ config.pool = pool := by
  cases kind with
  | postgres =>
      simp only [ofTarget, ofServerUrl]
      split
      · exact .inl rfl
      · exact .inr ⟨_, rfl, rfl⟩
  | sqlite =>
      simp only [ofTarget, ofFileUrl]
      split
      · exact .inl rfl
      · exact .inr ⟨_, rfl, rfl⟩

/-- A URL is read in three steps: the options are checked, then the pairs that are left, and then
the database is named. -/
theorem ofUrl_eq {s : String} (named : DatabaseKind.ofConnectionText? s = some kind)
    (parsed : Url.parse s = .ok url) :
    ofUrl s
      = match (given url.queryPairs).validate with
        | .error fault => .error (.invalidPoolOptions fault)
        | .ok () =>
            if (PoolOptions.extract url.queryPairs).others.isEmpty then
              ofTarget kind url (given url.queryPairs)
            else .error (.unsupportedOption
              (Bytes.Form.encode (PoolOptions.extract url.queryPairs).others)) := by
  rw [ofUrl_of_ofConnectionText? named, parsed]
  simp only [Except.mapError, bind, Except.bind, ofParsed, PoolOptions.ofValues_get?_extract]
  rfl

section

variable {s : String} (named : DatabaseKind.ofConnectionText? s = some kind)
  (parsed : Url.parse s = .ok url)

include named parsed

theorem ofUrl_of_known (checked : (given url.queryPairs).validate = .ok ())
    (known : ∀ pair ∈ url.queryPairs, namesOption pair = true) :
    ofUrl s = ofTarget kind url (given url.queryPairs) := by
  have nothing : (PoolOptions.extract url.queryPairs).others = [] := by
    rw [PoolOptions.others_extract, List.filter_eq_nil_iff]
    intro pair member
    rw [known pair member]
    exact Bool.false_ne_true
  rw [ofUrl_eq named parsed, checked, nothing]
  rfl

theorem ofUrl_of_other (checked : (given url.queryPairs).validate = .ok ())
    {pair : String × String} (member : pair ∈ url.queryPairs) (other : namesOption pair = false) :
    ofUrl s = .error (.unsupportedOption
      (Bytes.Form.encode (url.queryPairs.filter fun pair => !namesOption pair))) := by
  have left : (url.queryPairs.filter fun pair => !namesOption pair).isEmpty = false := by
    rw [List.isEmpty_eq_false_iff_exists_mem]
    exact ⟨pair, List.mem_filter.mpr ⟨member, by rw [other]; rfl⟩⟩
  rw [ofUrl_eq named parsed, checked, PoolOptions.others_extract]
  dsimp only
  rw [left, if_neg Bool.false_ne_true]

/-- A URL whose query has the same pairs in an order that is the same for every key is read
alike. -/
theorem toOption_ofUrl_of_sameOrder {other : String} {query : Option String}
    (otherNamed : DatabaseKind.ofConnectionText? other = some kind)
    (otherParsed : Url.parse other = .ok { url with query := query })
    (same : SameOrder (fun pair => Text.lower pair.1) url.queryPairs
      (Url.queryPairs { url with query := query })) :
    (ofUrl other).toOption = (ofUrl s).toOption := by
  have options : given (Url.queryPairs { url with query := query }) = given url.queryPairs := by
    rw [given, given, funext (PoolOptions.lastValue?_eq_of_sameOrder same)]
  have target : ofTarget kind { url with query := query } (given url.queryPairs)
      = ofTarget kind url (given url.queryPairs) := by
    cases kind <;> rfl
  rw [ofUrl_eq named parsed, ofUrl_eq otherNamed otherParsed, options, target,
    ← PoolOptions.isEmpty_others_of_sameOrder same]
  cases (given url.queryPairs).validate with
  | error fault => rfl
  | ok _ =>
      dsimp only
      split
      · rfl
      -- the pairs that are left may be quoted in another order
      · simp only [Except.toOption]

end

theorem ofTarget_ne_unsupportedOption (quoted : String) :
    ofTarget kind url pool ≠ .error (.unsupportedOption quoted) := by
  rcases ofTarget_cases kind url pool with missing | ⟨config, ok, -⟩
  · rw [missing]
    simp
  · rw [ok]
    simp

/-- The options of a URL that is read have been checked. -/
theorem validate_of_ofUrl {s : String} {config : ConnectionConfig} (read : ofUrl s = .ok config) :
    config.pool.validate = .ok () := by
  cases named : DatabaseKind.ofConnectionText? s with
  | none =>
      rw [ofUrl, named] at read
      cases read
  | some kind =>
      cases parsed : Url.parse s with
      | error fault =>
          rw [ofUrl_of_ofConnectionText? named, parsed] at read
          cases read
      | ok url =>
          rw [ofUrl_eq named parsed] at read
          cases checked : (given url.queryPairs).validate with
          | error fault =>
              rw [checked] at read
              cases read
          | ok done =>
              rw [checked] at read
              dsimp only at read
              split at read
              · rcases ofTarget_cases kind url (given url.queryPairs) with missing | ⟨found, ok, pool⟩
                · rw [missing] at read
                  cases read
                · rw [ok] at read
                  cases read
                  rw [pool, checked]
              · cases read

/-- What the query of a URL comes to, for every URL that names a database and can be parsed.  Each
pool option has the last value given for it in any case, if that can be read.  If these options
contradict each other, the URL is refused for this; else, if a pair names no option, it is refused
for all such pairs, which are quoted in their order; else it has these options, unless it names no
database.  So pairs with different keys may change places: this makes no difference to whether the
URL is read and as what. -/
theorem ofUrl_of_queryPairs {s : String} (named : DatabaseKind.ofConnectionText? s = some kind)
    (parsed : Url.parse s = .ok url) :
    ∃ options : PoolOptions,
      (∀ other, PoolOptions.AreGiven url.queryPairs other ↔ other = options)
      ∧ (∀ fault, options.validate = .error fault ->
        ofUrl s = .error (.invalidPoolOptions fault))
      ∧ (options.validate = .ok () ->
        ((∃ quoted, ofUrl s = .error (.unsupportedOption quoted))
            ↔ ∃ pair ∈ url.queryPairs, namesOption pair = false)
          ∧ (∀ quoted, ofUrl s = .error (.unsupportedOption quoted) ->
            quoted = Bytes.Form.encode (url.queryPairs.filter fun pair => !namesOption pair))
          ∧ ((∀ pair ∈ url.queryPairs, namesOption pair = true) ->
            ofUrl s = .error .missingDatabase
              ∨ ∃ config, ofUrl s = .ok config ∧ config.pool = options))
      ∧ ∀ (other : String) (query : Option String),
          DatabaseKind.ofConnectionText? other = some kind ->
          Url.parse other = .ok { url with query := query } ->
          SameOrder (fun pair => Text.lower pair.1) url.queryPairs
            (Url.queryPairs { url with query := query }) ->
          (ofUrl other).toOption = (ofUrl s).toOption := by
  refine ⟨given url.queryPairs, fun _ => PoolOptions.areGiven_iff, ?_, ?_, ?_⟩
  · intro fault wrong
    rw [ofUrl_eq named parsed, wrong]
  · intro checked
    by_cases known : ∀ pair ∈ url.queryPairs, namesOption pair = true
    · have read := ofUrl_of_known named parsed checked known
      have supported : ∀ quoted, ofUrl s ≠ .error (.unsupportedOption quoted) := by
        rw [read]
        exact ofTarget_ne_unsupportedOption
      refine ⟨iff_of_false ?_ ?_, ?_, ?_⟩
      · exact fun ⟨quoted, refused⟩ => supported quoted refused
      · exact fun ⟨pair, member, other⟩ => Bool.false_ne_true (other.symm.trans (known pair member))
      · exact fun quoted refused => absurd refused (supported quoted)
      · rw [read]
        exact fun _ => ofTarget_cases kind url _
    · have unknown : ∃ pair ∈ url.queryPairs, namesOption pair = false := by simpa using known
      obtain ⟨pair, member, other⟩ := unknown
      have refused := ofUrl_of_other named parsed checked member other
      refine ⟨iff_of_true ⟨_, refused⟩ ⟨pair, member, other⟩, ?_, fun all => absurd all known⟩
      intro quoted same
      exact ConfigFault.unsupportedOption.inj (Except.error.inj (same.symm.trans refused))
  · intro other query otherNamed otherParsed same
    exact toOption_ofUrl_of_sameOrder named parsed otherNamed otherParsed same

/-- A query that sets every option, with keys in different cases and one bound twice. -/
def crowdedQuery : String :=
  "MAX_connections=3&min_connections=1&Idle_Timeout=%2B90&acquire_timeout=007"
    ++ "&test_BEFORE_acquire=False&max_Connections=20"

/-- The same pairs with other options in front. -/
def reorderedQuery : String :=
  "test_BEFORE_acquire=False&min_connections=1&MAX_connections=3&acquire_timeout=007"
    ++ "&Idle_Timeout=%2B90&max_Connections=20"

def airlineUrl (query : String) : Url :=
  { scheme := "postgres", username := "ops", password := none, host := some "db", port := none
    path := "/airline", isOpaque := false, query := some query, hasFragment := false }

theorem queryPairs_crowdedQuery : (airlineUrl crowdedQuery).queryPairs
    = [("MAX_connections", "3"), ("min_connections", "1"), ("Idle_Timeout", "+90"),
      ("acquire_timeout", "007"), ("test_BEFORE_acquire", "False"), ("max_Connections", "20")] := by
  decide +kernel

theorem queryPairs_reorderedQuery : (airlineUrl reorderedQuery).queryPairs
    = [("test_BEFORE_acquire", "False"), ("min_connections", "1"), ("MAX_connections", "3"),
      ("acquire_timeout", "007"), ("Idle_Timeout", "+90"), ("max_Connections", "20")] := by
  decide +kernel

theorem sameOrder_reorderedQuery :
    SameOrder (fun pair => Text.lower pair.1) (airlineUrl crowdedQuery).queryPairs
      (airlineUrl reorderedQuery).queryPairs := by
  have keys : Text.lower "MAX_connections" = "max_connections"
      ∧ Text.lower "min_connections" = "min_connections"
      ∧ Text.lower "Idle_Timeout" = "idle_timeout"
      ∧ Text.lower "acquire_timeout" = "acquire_timeout"
      ∧ Text.lower "test_BEFORE_acquire" = "test_before_acquire"
      ∧ Text.lower "max_Connections" = "max_connections" := by decide
  intro key
  simp only [queryPairs_crowdedQuery, queryPairs_reorderedQuery, List.filter_cons, List.filter_nil, keys, decide_eq_true_eq]
  -- One key has two pairs, which keep their order; every other key has one or none.
  by_cases max : "max_connections" = key
  · subst max
    rfl
  by_cases min : "min_connections" = key
  · subst min
    rfl
  by_cases idle : "idle_timeout" = key
  · subst idle
    rfl
  by_cases acquire : "acquire_timeout" = key
  · subst acquire
    rfl
  simp only [max, min, idle, acquire, if_false]

theorem ofUrl_of_crowdedQuery :
    DatabaseKind.ofConnectionText? ("postgres://ops@db/airline?" ++ crowdedQuery) = some .postgres
      ∧ Url.parse ("postgres://ops@db/airline?" ++ crowdedQuery) = .ok (airlineUrl crowdedQuery)
      ∧ (∃ config, ofUrl ("postgres://ops@db/airline?" ++ crowdedQuery) = .ok config
        ∧ config.pool
          = { maxConnections := some 20, minConnections := some 1, idleTimeout := some 90
              acquireTimeout := some 7, testBeforeAcquire := some false })
      ∧ (ofUrl ("postgres://ops@db/airline?" ++ reorderedQuery)).toOption
        = (ofUrl ("postgres://ops@db/airline?" ++ crowdedQuery)).toOption := by
  have named : DatabaseKind.ofConnectionText? ("postgres://ops@db/airline?" ++ crowdedQuery)
      = some .postgres := by decide +kernel
  have parsed : Url.parse ("postgres://ops@db/airline?" ++ crowdedQuery)
      = .ok (airlineUrl crowdedQuery) := by decide +kernel
  rcases ofUrl_of_queryPairs named parsed with ⟨options, unique, -, accepted, reordered⟩
  have same : given (airlineUrl crowdedQuery).queryPairs = options :=
    (unique _).mp (PoolOptions.areGiven_iff.mpr rfl)
  have read : options
      = { maxConnections := some 20, minConnections := some 1, idleTimeout := some 90
          acquireTimeout := some 7, testBeforeAcquire := some false } := by
    rw [← same, queryPairs_crowdedQuery]
    decide +kernel
  have checked : options.validate = .ok () := by
    rw [read]
    decide
  have known : ∀ pair ∈ (airlineUrl crowdedQuery).queryPairs, namesOption pair = true := by
    rw [queryPairs_crowdedQuery]
    decide
  refine ⟨named, parsed, ?_, ?_⟩
  · rw [← read]
    refine ((accepted checked).2.2 known).resolve_left ?_
    rw [ofUrl_of_known named parsed (by rw [same, checked]) known, same, read]
    decide
  · exact reordered _ (some reorderedQuery) (by decide +kernel) (by decide +kernel)
      sameOrder_reorderedQuery

end ConnectionConfig
end SqlGate
