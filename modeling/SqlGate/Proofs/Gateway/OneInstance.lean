import Mathlib.Data.List.Basic
import Mathlib.Logic.Function.Iterate
import SqlGate.Gateway.Instance

namespace SqlGate

/-!
# One instance for all callers

A process asks for its shared manager from many places at once.  A call first
looks at the cell, then makes a manager of its own, and then puts it into the
cell or takes the one that is there by now; between two steps of a call any
number of others may be made and may take steps of theirs.  Several calls can
therefore find the cell empty, and each of them makes a manager.

They agree all the same.  The cell is written once, by the first call that gets
to its third step, and `Coherent` says what is known of every call at every
moment: one that returned a manager returned the one in the cell, and one that
failed had no configuration or one that is refused.
-/

/-! ## Calls -/

namespace InstanceCall

/-- What a call returned, once it has. -/
def result? : InstanceCall -> Option (Outcome Instance)
  | .returned result => some result
  | _ => none

/-- Whether a call has what it takes to succeed: a manager of its own, or the shared one. -/
def succeeds : InstanceCall -> Bool
  | .made _ | .returned (.ok _) => true
  | _ => false

/-- The number of steps that a call takes at most before it returns. -/
def stepsLeft : InstanceCall -> Nat
  | .started _ => 3
  | .foundEmpty _ => 2
  | .made _ => 1
  | .returned _ => 0

/-- Why a call fails that finds the cell empty. -/
inductive Rejects : Option ConnectionConfig -> Failure -> Prop where
  | missing : Rejects none notInitialized
  | invalid {config : ConnectionConfig} {fault : PoolFault}
      (refused : config.pool.validate = .error fault) :
      Rejects (some config) (.configuration fault.message)

/-- A step of a call that has the cell for itself. -/
def alone (s : InstanceCall × InstanceCell) : InstanceCall × InstanceCell :=
  s.1.step s.2

variable {call : InstanceCall} {cell : InstanceCell} {a : Instance}

/-- A call makes a manager of the configuration it has, unless it has none or it is refused. -/
theorem make_cases (config : Option ConnectionConfig) (cell : InstanceCell) :
    (∃ failure, Rejects config failure ∧ make config cell = (.returned (.error failure), cell))
      ∨ ∃ own : ConnectionConfig, config = some own ∧ own.pool.validate = .ok () ∧
          make config cell = (.made ⟨cell.next, own⟩, { cell with next := cell.next + 1 }) := by
  cases config with
  | none => exact Or.inl ⟨notInitialized, .missing, rfl⟩
  | some own =>
      cases checked : own.pool.validate with
      | error fault =>
          refine Or.inl ⟨.configuration fault.message, .invalid checked, ?_⟩
          simp only [make, Manager.create, checked]
      | ok _ =>
          refine Or.inr ⟨own, rfl, checked, ?_⟩
          simp only [make, Manager.create, checked]

/-- A call that looks when a manager is there returns it. -/
theorem look_of_shared (config : Option ConnectionConfig) (there : cell.shared = some a) :
    look config cell = .returned (.ok a) := by
  rw [look, there]

theorem look_of_empty (config : Option ConnectionConfig) (empty : cell.shared = none) :
    look config cell = .foundEmpty config := by
  rw [look, empty]

theorem put_of_shared (candidate : Instance) (there : cell.shared = some a) :
    put candidate cell = (.returned (.ok a), cell) := by
  rw [put, there]

theorem put_of_empty (candidate : Instance) (empty : cell.shared = none) :
    put candidate cell = (.returned (.ok candidate), { cell with shared := some candidate }) := by
  rw [put, empty]

/-- No step takes a manager out of the cell or puts another one in its place. -/
theorem shared_step (there : cell.shared = some a) : (call.step cell).2.shared = some a := by
  cases call with
  | started config => exact there
  | foundEmpty config =>
      rcases make_cases config cell with ⟨failure, -, failed⟩ | ⟨own, -, -, made⟩
      · rw [step, failed]
        exact there
      · rw [step, made]
        exact there
  | made candidate =>
      rw [step, put_of_shared candidate there]
      exact there
  | returned result => exact there

theorem succeeds_step (call : InstanceCall) (cell : InstanceCell) (fine : call.succeeds = true) :
    (call.step cell).1.succeeds = true := by
  cases call with
  | started config => cases fine
  | foundEmpty config => cases fine
  | made candidate =>
      cases there : cell.shared with
      | none =>
          rw [step, put_of_empty candidate there]
          rfl
      | some a =>
          rw [step, put_of_shared candidate there]
          rfl
  | returned result => exact fine

/-- A step that does not lead to success leaves the cell as it found it. -/
theorem step_of_not_succeeds (fails : (call.step cell).1.succeeds = false) :
    (call.step cell).2 = cell := by
  cases call with
  | started config => rfl
  | foundEmpty config =>
      rcases make_cases config cell with ⟨failure, -, failed⟩ | ⟨own, -, -, made⟩
      · rw [step, failed]
      · rw [step, made] at fails
        cases fails
  | made candidate =>
      have fine := succeeds_step (.made candidate) cell rfl
      rw [fails] at fine
      cases fine
  | returned result => rfl

theorem stepsLeft_step (call : InstanceCall) (cell : InstanceCell) :
    (call.step cell).1.stepsLeft ≤ call.stepsLeft - 1 := by
  cases call with
  | started config =>
      cases there : cell.shared with
      | none =>
          rw [step, look_of_empty config there]
          exact Nat.le_refl 2
      | some a =>
          rw [step, look_of_shared config there]
          exact Nat.zero_le 2
  | foundEmpty config =>
      rcases make_cases config cell with ⟨failure, -, failed⟩ | ⟨own, -, -, made⟩
      · rw [step, failed]
        exact Nat.zero_le 1
      · rw [step, made]
        exact Nat.le_refl 1
  | made candidate =>
      cases there : cell.shared with
      | none =>
          rw [step, put_of_empty candidate there]
          exact Nat.le_refl 0
      | some a =>
          rw [step, put_of_shared candidate there]
          exact Nat.le_refl 0
  | returned result => exact Nat.le_refl 0

theorem exists_result_of_stepsLeft (none : call.stepsLeft = 0) :
    ∃ result, call = .returned result := by
  cases call with
  | returned result => exact ⟨result, rfl⟩
  | _ => cases none

end InstanceCall

/-- A call for the shared manager: what it was given, and how far it has come. -/
structure InstanceCaller where
  config : Option ConnectionConfig
  call : InstanceCall

namespace InstanceCaller

/-- A call after its next step. -/
def advanced (caller : InstanceCaller) (cell : InstanceCell) : InstanceCaller :=
  { caller with call := (caller.call.step cell).1 }

/-- What is known of a call when the cell holds `shared`. -/
inductive Fits (shared : Option Instance) : InstanceCaller -> Prop where
  | started (config : Option ConnectionConfig) : Fits shared ⟨config, .started config⟩
  | foundEmpty (config : Option ConnectionConfig) : Fits shared ⟨config, .foundEmpty config⟩
  | made (candidate : Instance) (valid : candidate.config.pool.validate = .ok ()) :
      Fits shared ⟨some candidate.config, .made candidate⟩
  | found {a : Instance} (config : Option ConnectionConfig) (there : shared = some a) :
      Fits shared ⟨config, .returned (.ok a)⟩
  | failed {config : Option ConnectionConfig} {failure : Failure}
      (rejects : InstanceCall.Rejects config failure) :
      Fits shared ⟨config, .returned (.error failure)⟩

variable {caller : InstanceCaller} {cell : InstanceCell} {shared after : Option Instance}

/-- What is known of a call stays true as long as the cell keeps what it holds. -/
theorem Fits.mono (fits : caller.Fits shared) (keeps : ∀ a, shared = some a -> after = some a) :
    caller.Fits after := by
  cases fits with
  | started config => exact .started config
  | foundEmpty config => exact .foundEmpty config
  | made candidate valid => exact .made candidate valid
  | found config there => exact .found config (keeps _ there)
  | failed rejects => exact .failed rejects

theorem Fits.advanced (fits : caller.Fits cell.shared) :
    (caller.advanced cell).Fits (caller.call.step cell).2.shared := by
  cases fits with
  | started config =>
      cases there : cell.shared with
      | none =>
          simp only [InstanceCaller.advanced, InstanceCall.step,
            InstanceCall.look_of_empty config there]
          exact .foundEmpty config
      | some a =>
          simp only [InstanceCaller.advanced, InstanceCall.step,
            InstanceCall.look_of_shared config there]
          exact .found config there
  | foundEmpty config =>
      rcases InstanceCall.make_cases config cell with
        ⟨failure, rejects, failed⟩ | ⟨own, rfl, valid, made⟩
      · simp only [InstanceCaller.advanced, InstanceCall.step, failed]
        exact .failed rejects
      · simp only [InstanceCaller.advanced, InstanceCall.step, made]
        exact .made ⟨cell.next, own⟩ valid
  | made candidate valid =>
      cases there : cell.shared with
      | none =>
          simp only [InstanceCaller.advanced, InstanceCall.step,
            InstanceCall.put_of_empty candidate there]
          exact .found _ rfl
      | some a =>
          simp only [InstanceCaller.advanced, InstanceCall.step,
            InstanceCall.put_of_shared candidate there]
          exact .found _ there
  | found config there => exact .found config there
  | failed rejects => exact .failed rejects

/-- What a step puts into an empty cell was made of the configuration of the call. -/
theorem Fits.supplied {a : Instance} (fits : caller.Fits cell.shared)
    (put : (caller.call.step cell).2.shared = some a) :
    cell.shared = some a
      ∨ caller.config = some a.config ∧ a.config.pool.validate = .ok () := by
  cases fits with
  | started config => exact Or.inl put
  | foundEmpty config =>
      rcases InstanceCall.make_cases config cell with ⟨failure, -, failed⟩ | ⟨own, -, -, made⟩
      · simp only [InstanceCall.step, failed] at put
        exact Or.inl put
      · simp only [InstanceCall.step, made] at put
        exact Or.inl put
  | made candidate valid =>
      cases there : cell.shared with
      | none =>
          simp only [InstanceCall.step, InstanceCall.put_of_empty candidate there] at put
          obtain rfl : candidate = a := Option.some.inj put
          exact Or.inr ⟨rfl, valid⟩
      | some b =>
          simp only [InstanceCall.step, InstanceCall.put_of_shared candidate there] at put
          exact Or.inl (there.symm.trans put)
  | found config there => exact Or.inl put
  | failed rejects => exact Or.inl put

end InstanceCaller

/-! ## Runs -/

/-- The calls of a process in the order in which they were made, and the cell they share. -/
structure InstanceRun where
  cell : InstanceCell := {}
  callers : List InstanceCaller := []

namespace InstanceRun

/-- What may happen next: another call is made, or one of those made takes its next step. -/
inductive Turn where
  | call (config : Option ConnectionConfig)
  | step (n : Nat)
deriving DecidableEq

def take (r : InstanceRun) : Turn -> InstanceRun
  | .call config => { r with callers := r.callers ++ [⟨config, .started config⟩] }
  | .step n =>
      match r.callers[n]? with
      | none => r
      | some caller =>
          ⟨(caller.call.step r.cell).2, r.callers.set n (caller.advanced r.cell)⟩

def takeAll (r : InstanceRun) (turns : List Turn) : InstanceRun :=
  turns.foldl take r

/-- What a call returned, once it has. -/
def result? (r : InstanceRun) (n : Nat) : Option (Outcome Instance) :=
  (r.callers[n]?).bind fun caller => caller.call.result?

variable {r : InstanceRun} {caller : InstanceCaller} {n : Nat} {a : Instance}

theorem takeAll_append (r : InstanceRun) (front rest : List Turn) :
    r.takeAll (front ++ rest) = (r.takeAll front).takeAll rest :=
  List.foldl_append

theorem result?_eq_some {result : Outcome Instance} (returned : r.result? n = some result) :
    ∃ config, r.callers[n]? = some ⟨config, .returned result⟩ := by
  obtain ⟨⟨config, call⟩, there, shown⟩ := Option.bind_eq_some_iff.mp returned
  cases call with
  | returned found =>
      cases shown
      exact ⟨config, there⟩
  | _ => cases shown

/-! ### What a turn does to one call -/

theorem take_step (there : r.callers[n]? = some caller) :
    r.take (.step n)
      = ⟨(caller.call.step r.cell).2, r.callers.set n (caller.advanced r.cell)⟩ := by
  rw [take, there]

theorem callers_take_self (there : r.callers[n]? = some caller) :
    (r.take (.step n)).callers[n]? = some (caller.advanced r.cell) := by
  rw [take_step there]
  exact List.getElem?_set_self (List.getElem?_eq_some_iff.mp there).1

/-- A call is left alone by the turns of the others. -/
theorem callers_take_of_ne (there : r.callers[n]? = some caller) {turn : Turn}
    (other : turn ≠ .step n) : (r.take turn).callers[n]? = some caller := by
  cases turn with
  | call config =>
      exact (List.getElem?_append_left (List.getElem?_eq_some_iff.mp there).1).trans there
  | step m =>
      have different : m ≠ n := fun same => other (congrArg Turn.step same)
      cases taken : r.callers[m]? with
      | none =>
          rw [take, taken]
          exact there
      | some moved =>
          rw [take_step taken]
          exact (List.getElem?_set_ne different).trans there

/-- A property of calls that every step keeps is kept by every run. -/
theorem exists_caller_takeAll {property : InstanceCall -> Prop}
    (keeps : ∀ call cell, property call -> property (InstanceCall.step call cell).1)
    (there : r.callers[n]? = some caller) (holds : property caller.call) (turns : List Turn) :
    ∃ later, (r.takeAll turns).callers[n]? = some later ∧ property later.call := by
  induction turns generalizing r caller with
  | nil => exact ⟨caller, there, holds⟩
  | cons turn rest ih =>
      by_cases own : turn = .step n
      · subst own
        exact ih (callers_take_self there) (keeps _ _ holds)
      · exact ih (callers_take_of_ne there own) holds

theorem result?_takeAll {result : Outcome Instance} (returned : r.result? n = some result)
    (turns : List Turn) : (r.takeAll turns).result? n = some result := by
  obtain ⟨config, there⟩ := result?_eq_some returned
  have still : ∀ call cell, call = InstanceCall.returned result ->
      (InstanceCall.step call cell).1 = InstanceCall.returned result := by
    rintro _ cell rfl
    rfl
  obtain ⟨later, found, same⟩ := exists_caller_takeAll still there rfl turns
  rw [result?, found, Option.bind_some, same]
  rfl

/-- A call that takes three steps has returned, however its steps lie among those of others. -/
theorem exists_result_of_steps (there : r.callers[n]? = some caller) {turns : List Turn}
    (enough : caller.call.stepsLeft ≤ turns.count (.step n)) :
    ∃ result, (r.takeAll turns).result? n = some result := by
  induction turns generalizing r caller with
  | nil =>
      obtain ⟨result, returned⟩ :=
        InstanceCall.exists_result_of_stepsLeft (Nat.le_zero.mp enough)
      refine ⟨result, ?_⟩
      change r.result? n = some result
      rw [result?, there, Option.bind_some, returned]
      rfl
  | cons turn rest ih =>
      by_cases own : turn = .step n
      · subst own
        refine ih (callers_take_self there) ?_
        have fewer := InstanceCall.stepsLeft_step caller.call r.cell
        rw [List.count_cons_self] at enough
        change (caller.call.step r.cell).1.stepsLeft ≤ rest.count (.step n)
        omega
      · refine ih (callers_take_of_ne there own) ?_
        rwa [List.count_cons_of_ne own] at enough

/-- A call keeps what it was given. -/
theorem configs_set (there : r.callers[n]? = some caller) (cell : InstanceCell) :
    (r.callers.set n (caller.advanced cell)).map InstanceCaller.config
      = r.callers.map InstanceCaller.config := by
  have same : (r.callers.map InstanceCaller.config)[n]? = some caller.config := by
    rw [List.getElem?_map, there]
    rfl
  obtain ⟨inside, found⟩ := List.getElem?_eq_some_iff.mp same
  rw [List.map_set]
  change (r.callers.map InstanceCaller.config).set n caller.config = _
  rw [← found, List.set_getElem_self]

/-! ### What a turn does to the cell -/

theorem shared_take (there : r.cell.shared = some a) (turn : Turn) :
    (r.take turn).cell.shared = some a := by
  cases turn with
  | call config => exact there
  | step m =>
      cases taken : r.callers[m]? with
      | none =>
          rw [take, taken]
          exact there
      | some moved =>
          rw [take_step taken]
          exact InstanceCall.shared_step there

/-- The cell keeps what was put into it. -/
theorem shared_takeAll (there : r.cell.shared = some a) (turns : List Turn) :
    (r.takeAll turns).cell.shared = some a := by
  induction turns generalizing r with
  | nil => exact there
  | cons turn rest ih => exact ih (shared_take there turn)

/-- A call that has not looked yet returns what is in the cell as soon as it does. -/
theorem result?_of_started {given config : Option ConnectionConfig}
    (there : r.callers[n]? = some ⟨given, .started config⟩) (shared : r.cell.shared = some a)
    {turns : List Turn} (looks : Turn.step n ∈ turns) :
    (r.takeAll turns).result? n = some (.ok a) := by
  induction turns generalizing r with
  | nil => cases looks
  | cons turn rest ih =>
      by_cases own : turn = .step n
      · subst own
        refine result?_takeAll ?_ rest
        rw [result?, callers_take_self there, Option.bind_some, InstanceCaller.advanced,
          InstanceCall.step, InstanceCall.look_of_shared config shared]
        rfl
      · have later : Turn.step n ∈ rest := by
          rcases List.mem_cons.mp looks with same | later
          · exact absurd same.symm own
          · exact later
        exact ih (callers_take_of_ne there own) (shared_take shared turn) later

/-- The steps of a call that fails in the end leave the cell as they find it. -/
theorem cell_take_of_failed {failure : Failure} {rest : List Turn}
    (failed : (r.takeAll (.step n :: rest)).result? n = some (.error failure)) :
    (r.take (.step n)).cell = r.cell := by
  cases there : r.callers[n]? with
  | none => rw [take, there]
  | some caller =>
      have fails : (caller.call.step r.cell).1.succeeds = false := by
        -- what can succeed after this step would still be able to in the end
        by_contra fine
        obtain ⟨later, found, still⟩ := exists_caller_takeAll InstanceCall.succeeds_step
          (callers_take_self there) (eq_true_of_ne_false fine) rest
        obtain ⟨config, ended⟩ := result?_eq_some failed
        obtain rfl : later = _ := Option.some.inj (found.symm.trans ended)
        cases still
      rw [take_step there]
      exact InstanceCall.step_of_not_succeeds fails

/-! ## What is known of every call -/

/-- The cell and the calls of a run agree. -/
structure Coherent (r : InstanceRun) : Prop where
  fits : ∀ caller ∈ r.callers, caller.Fits r.cell.shared
  /-- What is in the cell was made of a configuration that a call was given. -/
  supplied : ∀ a, r.cell.shared = some a -> a.config.pool.validate = .ok () ∧
    ∃ caller ∈ r.callers, caller.config = some a.config

theorem coherent_start : Coherent {} where
  fits := by
    intro caller member
    cases member
  supplied := by
    intro a there
    cases there

theorem Coherent.take (coherent : r.Coherent) (turn : Turn) : (r.take turn).Coherent := by
  cases turn with
  | call config =>
      refine ⟨?_, ?_⟩
      · intro caller member
        rcases List.mem_append.mp member with old | new
        · exact coherent.fits caller old
        · rw [List.mem_singleton.mp new]
          exact .started config
      · intro a there
        obtain ⟨valid, caller, member, given⟩ := coherent.supplied a there
        exact ⟨valid, caller, List.mem_append_left _ member, given⟩
  | step n =>
      cases there : r.callers[n]? with
      | none =>
          rw [InstanceRun.take, there]
          exact coherent
      | some moved =>
          have fits := coherent.fits moved (List.mem_of_getElem? there)
          rw [take_step there]
          refine ⟨?_, ?_⟩
          · intro caller member
            rcases List.mem_or_eq_of_mem_set member with old | rfl
            · exact (coherent.fits caller old).mono fun a held => InstanceCall.shared_step held
            · exact fits.advanced
          · intro a put
            -- whoever brought the configuration, its call is still there with it
            have kept : ∀ caller ∈ r.callers, ∃ later ∈ r.callers.set n (moved.advanced r.cell),
                later.config = caller.config := by
              intro caller member
              have listed := List.mem_map_of_mem (f := InstanceCaller.config) member
              rw [← configs_set there r.cell] at listed
              exact List.mem_map.mp listed
            rcases fits.supplied put with held | ⟨given, valid⟩
            · obtain ⟨valid, caller, member, given⟩ := coherent.supplied a held
              obtain ⟨later, still, same⟩ := kept caller member
              exact ⟨valid, later, still, same.trans given⟩
            · obtain ⟨later, still, same⟩ := kept moved (List.mem_of_getElem? there)
              exact ⟨valid, later, still, same.trans given⟩

theorem coherent_takeAll (turns : List Turn) : (takeAll {} turns).Coherent := by
  have run : ∀ r : InstanceRun, r.Coherent -> (r.takeAll turns).Coherent := by
    induction turns with
    | nil => exact fun r coherent => coherent
    | cons turn rest ih => exact fun r coherent => ih _ (coherent.take turn)
  exact run {} coherent_start

/-- What a call returned is in the cell. -/
theorem Coherent.shared_of_result (coherent : r.Coherent) (returned : r.result? n = some (.ok a)) :
    r.cell.shared = some a := by
  obtain ⟨config, there⟩ := result?_eq_some returned
  cases coherent.fits _ (List.mem_of_getElem? there) with
  | found config there => exact there

/-- A call that takes some steps in a row is not disturbed by the others. -/
theorem takeAll_replicate (there : r.callers[n]? = some caller) (k : Nat) :
    (r.takeAll (List.replicate k (.step n))).callers[n]?
        = some ⟨caller.config, (InstanceCall.alone^[k] (caller.call, r.cell)).1⟩
      ∧ (r.takeAll (List.replicate k (.step n))).cell
        = (InstanceCall.alone^[k] (caller.call, r.cell)).2 := by
  induction k generalizing r caller with
  | zero => exact ⟨there, rfl⟩
  | succ k ih =>
      have next := ih (callers_take_self there)
      rw [take_step there] at next
      rw [List.replicate_succ]
      change ((r.take (.step n)).takeAll _).callers[n]? = _
        ∧ ((r.take (.step n)).takeAll _).cell = _
      rw [take_step there]
      exact next

/-- A call that is not interleaved with others comes out as `InstanceCell.getInstance` tells. -/
theorem takeAll_alone (r : InstanceRun) (config : Option ConnectionConfig) :
    let alone := (r.take (.call config)).takeAll (List.replicate 3 (.step r.callers.length))
    alone.result? r.callers.length = some (r.cell.getInstance config).1
      ∧ alone.cell = (r.cell.getInstance config).2 := by
  have made : (r.take (.call config)).callers[r.callers.length]?
      = some ⟨config, .started config⟩ := List.getElem?_concat_length
  have steps := takeAll_replicate made 3
  have enough : InstanceCall.stepsLeft (.started config)
      ≤ (List.replicate 3 (Turn.step r.callers.length)).count (.step r.callers.length) := by
    rw [List.count_replicate_self]
    exact Nat.le_refl 3
  obtain ⟨result, returned⟩ := exists_result_of_steps made enough
  obtain ⟨own, there⟩ := result?_eq_some returned
  have last : (InstanceCall.alone^[3] (.started config, r.cell)).1 = .returned result :=
    congrArg InstanceCaller.call (Option.some.inj (steps.1.symm.trans there))
  have same : r.cell.getInstance config
      = (result, (InstanceCall.alone^[3] (.started config, r.cell)).2) := by
    change (match (InstanceCall.alone^[3] (.started config, r.cell)).1 with
      | .returned result => (result, _)
      | _ => _) = _
    rw [last]
    rfl
  rw [same]
  exact ⟨returned, steps.2⟩

/-! ## Every run -/

/-- What the calls of a run were given, in the order in which they were made. -/
def given (turns : List Turn) : List (Option ConnectionConfig) :=
  turns.filterMap fun turn =>
    match turn with
    | .call config => some config
    | .step _ => none

theorem configs_take (r : InstanceRun) (turn : Turn) :
    (r.take turn).callers.map InstanceCaller.config
      = r.callers.map InstanceCaller.config ++ given [turn] := by
  cases turn with
  | call config => exact List.map_append
  | step n =>
      cases there : r.callers[n]? with
      | none =>
          rw [take, there]
          exact (List.append_nil _).symm
      | some moved =>
          rw [take_step there, configs_set there]
          exact (List.append_nil _).symm

theorem configs_takeAll (turns : List Turn) :
    (takeAll {} turns).callers.map InstanceCaller.config = given turns := by
  have run : ∀ r : InstanceRun, (r.takeAll turns).callers.map InstanceCaller.config
      = r.callers.map InstanceCaller.config ++ given turns := by
    induction turns with
    | nil => exact fun r => (List.append_nil _).symm
    | cons turn rest ih =>
        intro r
        change ((r.take turn).takeAll rest).callers.map InstanceCaller.config = _
        rw [ih, configs_take, List.append_assoc]
        exact congrArg _ List.filterMap_append.symm
  exact run {}

/-- What the callers of a process can rely on when the turns of a run were taken. -/
structure Shares (turns : List Turn) : Prop where
  /-- The calls that succeed return one instance, -/
  one : ∀ m n a b, (takeAll {} turns).result? m = some (.ok a) ->
    (takeAll {} turns).result? n = some (.ok b) -> a = b
  /-- of an accepted configuration that one of the calls was given, -/
  supplied : ∀ n a, (takeAll {} turns).result? n = some (.ok a) ->
    some a.config ∈ given turns ∧ a.config.pool.validate = .ok ()
  /-- and it stays the shared one, whatever happens next. -/
  stays : ∀ n a, (takeAll {} turns).result? n = some (.ok a) ->
    ∀ later, (takeAll {} (turns ++ later)).cell.shared = some a
      ∧ (takeAll {} (turns ++ later)).result? n = some (.ok a)
  /-- From then on a new call returns it at its first step, whatever it is given. -/
  found : ∀ n a, (takeAll {} turns).result? n = some (.ok a) ->
    ∀ config later, Turn.step (given turns).length ∈ later ->
      (takeAll {} (turns ++ .call config :: later)).result? (given turns).length = some (.ok a)
  /-- A call that fails was given no configuration or one that is refused, -/
  failed : ∀ n failure, (takeAll {} turns).result? n = some (.error failure) ->
    ∃ config, (given turns)[n]? = some config ∧ InstanceCall.Rejects config failure
  /-- and none of its steps changes the cell. -/
  untouched : ∀ n failure, (takeAll {} turns).result? n = some (.error failure) ->
    ∀ front rest, turns = front ++ .step n :: rest ->
      (takeAll {} (front ++ [.step n])).cell = (takeAll {} front).cell
  /-- A new call returns after three steps at most. -/
  returns : ∀ config later, 3 ≤ later.count (.step (given turns).length) ->
    ∃ result, (takeAll {} (turns ++ .call config :: later)).result? (given turns).length
      = some result
  /-- A new call that nobody interrupts comes out as the program makes it. -/
  alone : ∀ config,
    let left := takeAll {} (turns ++ .call config
      :: List.replicate 3 (.step (given turns).length))
    left.result? (given turns).length
        = some ((takeAll {} turns).cell.getInstance config).1
      ∧ left.cell = ((takeAll {} turns).cell.getInstance config).2

/-- However the calls for the shared manager are interleaved, they share one instance. -/
theorem shares_of_run (turns : List Turn) : Shares turns := by
  have coherent := coherent_takeAll turns
  have configs := configs_takeAll turns
  have calls : (takeAll {} turns).callers.length = (given turns).length := by
    rw [← configs, List.length_map]
  have entered : ∀ config, ((takeAll {} turns).take (.call config)).callers[(given turns).length]?
      = some ⟨config, .started config⟩ := by
    intro config
    rw [← calls]
    exact List.getElem?_concat_length
  refine ⟨?_, ?_, ?_, ?_, ?_, ?_, ?_, ?_⟩
  · intro m n a b first second
    exact Option.some.inj ((coherent.shared_of_result first).symm.trans
      (coherent.shared_of_result second))
  · intro n a returned
    obtain ⟨valid, caller, member, own⟩ := coherent.supplied a (coherent.shared_of_result returned)
    refine ⟨?_, valid⟩
    rw [← configs, ← own]
    exact List.mem_map_of_mem member
  · intro n a returned later
    rw [takeAll_append]
    exact ⟨shared_takeAll (coherent.shared_of_result returned) later,
      result?_takeAll returned later⟩
  · intro n a returned config later looks
    rw [takeAll_append]
    have shared := shared_take (coherent.shared_of_result returned) (.call config)
    exact result?_of_started (entered config) shared looks
  · intro n failure returned
    obtain ⟨config, there⟩ := result?_eq_some returned
    refine ⟨config, ?_, ?_⟩
    · rw [← configs, List.getElem?_map, there]
      rfl
    · cases coherent.fits _ (List.mem_of_getElem? there) with
      | failed rejects => exact rejects
  · intro n failure returned front rest split
    rw [split, takeAll_append] at returned
    rw [takeAll_append]
    exact cell_take_of_failed returned
  · intro config later enough
    rw [takeAll_append]
    exact exists_result_of_steps (entered config) enough
  · intro config
    rw [takeAll_append, ← calls]
    exact takeAll_alone (takeAll {} turns) config

/-- Two calls find the cell empty and make a manager each; a call without a configuration and one
with a refused one fail in between, and the manager made second is the one that is shared. -/
def twoFirstCallers : List Turn :=
  [.call (some (.sqlite "a.db")), .call none,
    .call (some ((ConnectionConfig.sqlite "c.db").withPool { maxConnections := some 0 })),
    .call (some (.sqlite "b.db")), .step 0, .step 1, .step 2, .step 3, .step 0, .step 1, .step 2,
    .step 3, .step 3, .step 0]

theorem shares_of_twoFirstCallers :
    (takeAll {} twoFirstCallers).result? 0 = some (.ok ⟨1, .sqlite "b.db"⟩)
      ∧ (takeAll {} twoFirstCallers).result? 1
          = some (.error InstanceCall.notInitialized)
      ∧ (takeAll {} twoFirstCallers).result? 2
          = some (.error (.configuration "max_connections must be greater than 0"))
      ∧ some (.sqlite "b.db") ∈ given twoFirstCallers
      ∧ (takeAll {} (twoFirstCallers ++ [.call none, .step 4])).result? 4
          = some (.ok ⟨1, .sqlite "b.db"⟩) := by
  have shares := shares_of_run twoFirstCallers
  have first : (takeAll {} twoFirstCallers).result? 0 = some (.ok ⟨1, .sqlite "b.db"⟩) := rfl
  refine ⟨first, rfl, rfl, (shares.supplied 0 _ first).1, ?_⟩
  exact shares.found 0 _ first none [.step 4] (List.mem_singleton.mpr rfl)

end InstanceRun
end SqlGate
