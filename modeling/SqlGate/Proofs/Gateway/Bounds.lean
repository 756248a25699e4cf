import SqlGate.Gateway.Manager
import SqlGate.Proofs.Config.Queries

namespace SqlGate

/-!
# The bounds of a pool

A manager is made only of options that were checked, and then its pool may hold
at least one connection.  But the check compares two bounds that are both set,
while a pool gets the bounds that are left when defaults are filled in and a
database in memory is held to one connection.  A number of connections to be kept
open that was compared with no bound, or with another one, may exceed the one
that the pool gets.
-/

namespace PoolOptions

variable {options : PoolOptions}

/-- The check looks at what is set, and at nothing else. -/
theorem validate_eq_ok_iff :
    options.validate = .ok ()
      ↔ options.maxConnections ≠ some 0
        ∧ ∀ min max, options.minConnections = some min -> options.maxConnections = some max ->
          min ≤ max := by
  obtain ⟨maxGiven, minGiven, idle, acquire, test⟩ := options
  rw [validate]
  dsimp only
  split
  · rename_i zero
    exact iff_of_false nofun fun accepted => accepted.1 zero
  · rename_i positive
    cases minGiven with
    | none => exact iff_of_true rfl ⟨positive, nofun⟩
    | some min =>
        cases maxGiven with
        | none => exact iff_of_true rfl ⟨positive, nofun⟩
        | some max =>
            dsimp only
            split
            · rename_i above
              refine iff_of_false nofun fun accepted => ?_
              exact absurd (accepted.2 min max rfl rfl) (UInt32.not_le.mpr above)
            · rename_i below
              refine iff_of_true rfl ⟨positive, ?_⟩
              rintro _ _ ⟨⟩ ⟨⟩
              exact UInt32.not_lt.mp below

end PoolOptions

namespace ConnectionConfig

variable {config : ConnectionConfig}

/-- The number of connections to be kept open exceeds a bound that it is not compared with: the
single connection to a database in memory, or the default where no bound is set. -/
def EvadesCheck (config : ConnectionConfig) : Prop :=
  ∃ min, config.pool.minConnections = some min
    ∧ ((config.isInMemory = true ∧ 1 < min)
      ∨ (config.isInMemory = false ∧ config.pool.maxConnections = none
        ∧ PoolOptions.maxOrDefault {} config.kind < min))

theorem pos_maxOrDefault (kind : DatabaseKind) {options : PoolOptions}
    (positive : options.maxConnections ≠ some 0) : 1 ≤ (options.maxOrDefault kind).toNat := by
  unfold PoolOptions.maxOrDefault
  cases given : options.maxConnections with
  | none => cases kind <;> decide
  | some max =>
      have nonzero : max.toNat ≠ 0 := by
        intro zero
        have none : max = 0 := UInt32.toNat_inj.mp zero
        exact positive (by rw [given, none])
      rw [Option.getD_some]
      omega

theorem one_le_maxSize (checked : config.pool.validate = .ok ()) :
    1 ≤ (Pool.ofConfig config).maxSize := by
  rw [Pool.ofConfig]
  dsimp only
  split
  · exact Nat.le_refl 1
  · exact pos_maxOrDefault config.kind (PoolOptions.validate_eq_ok_iff.mp checked).1

/-- A pool is asked to keep no more connections open than it may hold, unless their number evades
the check. -/
theorem minSize_le_maxSize_iff (checked : config.pool.validate = .ok ()) :
    (Pool.ofConfig config).minSize ≤ (Pool.ofConfig config).maxSize ↔ ¬ config.EvadesCheck := by
  have compared := (PoolOptions.validate_eq_ok_iff.mp checked).2
  have lower : (Pool.ofConfig config).minSize = (config.pool.minConnections.getD 0).toNat := rfl
  cases given : config.pool.minConnections with
  | none =>
      refine iff_of_true ?_ ?_
      · rw [lower, given]
        exact Nat.zero_le _
      · rintro ⟨min, same, -⟩
        rw [given] at same
        cases same
  | some min =>
      rw [lower, given, Option.getD_some, Pool.ofConfig, EvadesCheck, given]
      simp only [Option.some.injEq, exists_eq_left']
      cases memory : config.isInMemory with
      | true => simp [UInt32.lt_iff_toNat_lt]
      | false =>
          cases bound : config.pool.maxConnections with
          | none =>
              simp [UInt32.lt_iff_toNat_lt, PoolOptions.maxOrDefault, bound]
          | some max =>
              have below := UInt32.le_iff_toNat_le.mp (compared min max given bound)
              simpa [PoolOptions.maxOrDefault, bound] using below

end ConnectionConfig

namespace Manager

variable {config : ConnectionConfig}

theorem create_of_validate (checked : config.pool.validate = .ok ()) :
    create config = .ok { config := config, pool := Pool.ofConfig config } := by
  rw [create, checked]

theorem validate_of_create {m : Manager} (made : create config = .ok m) :
    config.pool.validate = .ok () ∧ m.pool = Pool.ofConfig config := by
  cases checked : config.pool.validate with
  | error fault =>
      rw [create, checked] at made
      cases made
  | ok done =>
      rw [create_of_validate checked] at made
      cases made
      exact ⟨rfl, rfl⟩

/-- The bounds of the pools that are made.  A manager is made exactly of a configuration that does
not set the greatest number of connections to nothing or below the number to be kept open, and so
of every configuration that is read from a URL.  Its pool may hold a connection, and it is asked to
keep no more of them open than it may hold, unless the number that it is asked for was compared
with no bound or with another one than the pool has. -/
theorem bounds_of_create (config : ConnectionConfig) :
    ((∃ m, create config = .ok m)
        ↔ config.pool.maxConnections ≠ some 0
          ∧ ∀ min max, config.pool.minConnections = some min ->
            config.pool.maxConnections = some max -> min ≤ max)
      ∧ (∀ s, ConnectionConfig.ofUrl s = .ok config -> ∃ m, create config = .ok m)
      ∧ ∀ m, create config = .ok m ->
        1 ≤ m.pool.maxSize ∧ (m.pool.minSize ≤ m.pool.maxSize ↔ ¬ config.EvadesCheck) := by
  refine ⟨?_, ?_, ?_⟩
  · rw [← PoolOptions.validate_eq_ok_iff]
    exact ⟨fun ⟨_, made⟩ => (validate_of_create made).1,
      fun checked => ⟨_, create_of_validate checked⟩⟩
  · exact fun s read => ⟨_, create_of_validate (ConnectionConfig.validate_of_ofUrl read)⟩
  · intro m made
    obtain ⟨checked, pool⟩ := validate_of_create made
    rw [pool]
    exact ⟨ConnectionConfig.one_le_maxSize checked, ConnectionConfig.minSize_le_maxSize_iff checked⟩

/-- A database in memory, with bounds that agree with each other. -/
def sharedMemory : ConnectionConfig :=
  (ConnectionConfig.sqlite ":memory:").withPool
    { maxConnections := some 4, minConnections := some 3 }

theorem bounds_of_sharedMemory :
    ConnectionConfig.ofUrl "sqlite::memory:?min_connections=3&max_connections=4" = .ok sharedMemory
      ∧ ∃ m, create sharedMemory = .ok m ∧ 1 ≤ m.pool.maxSize
        ∧ ¬ m.pool.minSize ≤ m.pool.maxSize := by
  have read : ConnectionConfig.ofUrl "sqlite::memory:?min_connections=3&max_connections=4"
      = .ok sharedMemory := by decide +kernel
  obtain ⟨-, ofUrl, bounds⟩ := bounds_of_create sharedMemory
  obtain ⟨m, made⟩ := ofUrl _ read
  obtain ⟨some, evades⟩ := bounds m made
  refine ⟨read, m, made, some, fun below => evades.mp below ?_⟩
  exact ⟨3, rfl, .inl ⟨by decide, by decide⟩⟩

/-- It is not so that a pool is asked to keep no more connections open than it may hold: where no
greatest number is set, nothing is compared with the default. -/
theorem not_forall_minSize_le_maxSize :
    ¬ ∀ (config : ConnectionConfig) (m : Manager),
      create config = .ok m -> m.pool.minSize ≤ m.pool.maxSize := by
  intro claimed
  have below := claimed
    ((ConnectionConfig.sqlite "airline.db").withPool { minConnections := some 8 }) _
    (create_of_validate rfl)
  exact absurd below (by decide)

end Manager
end SqlGate
