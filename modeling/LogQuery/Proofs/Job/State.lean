import LogQuery.Proofs.Job.Deposit

/-!
# States of stored jobs

What the engine does to its jobs comes down to three things: it inserts a job, it adds results to
one, which changes no state, and it finishes one.  For each of them there is one equation for the
states of all jobs, and where the registry changes one for the registered jobs.
-/

namespace LogQuery

open LogQuery.Pipeline

/-! ## The registry -/

namespace JobRegistry

variable {Token : Type} {registry : JobRegistry Token} {id other : Int}

theorem contains_eq_true_iff : registry.contains id = true ↔ id ∈ registry.running := by
  rw [contains, running, Std.ExtTreeMap.mem_keys, Std.ExtTreeMap.mem_iff_contains]

theorem mem_running_remove :
    other ∈ (registry.remove id).running ↔ other ≠ id ∧ other ∈ registry.running := by
  rw [running, running, remove, Std.ExtTreeMap.mem_keys, Std.ExtTreeMap.mem_keys,
    Std.ExtTreeMap.mem_erase, ne_eq, Std.compare_eq_iff_eq, eq_comm]

theorem running_cancel (registry : JobRegistry Token) (id : Int) :
    (registry.cancel id).running = registry.running := by
  rw [cancel]
  split
  · rfl
  · rfl

theorem hasStopped_cancel (registry : JobRegistry Token) (id : Int) :
    (registry.cancel id).hasStopped = registry.hasStopped := by
  rw [cancel]
  split
  · rfl
  · rfl

theorem running_empty : (empty : JobRegistry Token).running = [] := by
  rw [List.eq_nil_iff_forall_not_mem]
  intro id member
  rw [running, Std.ExtTreeMap.mem_keys] at member
  exact Std.ExtTreeMap.not_mem_empty member

theorem running_shutdown (registry : JobRegistry Token) : registry.shutdown.running = [] :=
  running_empty

theorem notMem_running_shutdown (registry : JobRegistry Token) (id : Int) :
    id ∉ registry.shutdown.running := by
  rw [running_shutdown]
  exact List.not_mem_nil

/-- After a shutdown there is nothing to forget. -/
theorem remove_shutdown (registry : JobRegistry Token) (id : Int) :
    registry.shutdown.remove id = registry.shutdown := by
  rw [remove, shutdown, Std.ExtTreeMap.erase_empty]

end JobRegistry

/-! ## The store -/

namespace JobStore

/-- The state of a stored job. -/
def state? (store : JobStore) (id : Int) : Option JobState :=
  (store.record? id).map (·.state)

variable {store changed : JobStore} {id : Int} {state : JobState}

theorem state?_eq_some_iff :
    store.state? id = some state ↔
      ∃ record, store.record? id = some record ∧ record.state = state :=
  Option.map_eq_some_iff

theorem state?_eq_none_iff : store.state? id = none ↔ store.record? id = none :=
  Option.map_eq_none_iff

/-- The number of a new job belongs to no other. -/
theorem state?_insert_fst (store : JobStore) (job : NewJob) :
    store.state? (store.insert job).1 = none := by
  rw [state?_eq_none_iff]
  exact record?_insert_fst store job

/-- A new job is running, and the states of all others stay. -/
theorem state?_insert (store : JobStore) (job : NewJob) (other : Int) :
    (store.insert job).2.state? other =
      if other = (store.insert job).1 then some .running else store.state? other := by
  rw [state?, state?, record?_insert]
  split
  · rfl
  · rfl

/-- A change that leaves the state of its job leaves all states. -/
theorem state?_of_change {update : JobRecord → JobRecord}
    (succeeds : store.change id update = .ok changed)
    (keeps : ∀ record, (update record).state = record.state) (other : Int) :
    changed.state? other = store.state? other := by
  rw [state?, state?, record?_of_change succeeds]
  split
  · next same =>
      rw [same, Option.map_map]
      exact congrArg (Option.map · _) (funext keeps)
  · rfl

end JobStore

/-! ## Connections -/

namespace JobConnection

variable {connection changed : JobConnection} {request : StoreRequest}

/-- A change is made exactly if it can be requested and the store makes it. -/
theorem apply_eq_ok_iff {outcome : Except StoreError JobStore} :
    connection.apply request outcome = .ok changed ↔
      connection.outage request = none ∧
        ∃ store, outcome = .ok store ∧ { connection with store } = changed := by
  rw [apply, attempt]
  cases connection.outage request with
  | some reason => simp [Except.map]
  | none => simp [map_eq_ok_iff]

/-- A job that is not found is the one that was looked for. -/
theorem eq_of_get_eq_jobNotFound {id missing : Int}
    (notGot : connection.get id = .error (.jobNotFound missing)) : missing = id := by
  rw [get, attempt] at notGot
  split at notGot
  · cases notGot
  · rw [JobStore.get, JobStore.record] at notGot
    cases found : connection.store.record? id with
    | some record =>
        rw [found] at notGot
        cases notGot
    | none =>
        rw [found] at notGot
        cases notGot
        rfl

/-- Another connection to the same jobs in the same states, to which the same requests fail. -/
structure KeepsStates (before behind : JobConnection) : Prop where
  outage_eq : behind.outage = before.outage
  state?_eq (id : Int) : behind.store.state? id = before.store.state? id

theorem KeepsStates.refl (connection : JobConnection) : connection.KeepsStates connection :=
  ⟨rfl, fun _ => rfl⟩

theorem KeepsStates.trans {first second third : JobConnection} (before : first.KeepsStates second)
    (behind : second.KeepsStates third) : first.KeepsStates third where
  outage_eq := behind.outage_eq.trans before.outage_eq
  state?_eq id := (behind.state?_eq id).trans (before.state?_eq id)

theorem KeepsStates.of_apply_change {id : Int} {update : JobRecord → JobRecord}
    (succeeds : connection.apply request (connection.store.change id update) = .ok changed)
    (keeps : ∀ record, (update record).state = record.state) : connection.KeepsStates changed := by
  obtain ⟨-, store, stored, rfl⟩ := apply_eq_ok_iff.mp succeeds
  exact ⟨rfl, JobStore.state?_of_change stored keeps⟩

end JobConnection

/-! ## Results -/

namespace Deposit

theorem keepsStates_storeCounts (deposit : Deposit) (id : Int) (maps : List Fields) :
    deposit.jobs.KeepsStates (deposit.storeCounts id maps).jobs := by
  rw [storeCounts]
  split
  · next jobs changed => exact .of_apply_change changed fun _ => rfl
  · exact .refl _

theorem keepsStates_storeEvents (deposit : Deposit) (id : Int) (events : List ExtractedEvent) :
    deposit.jobs.KeepsStates (deposit.storeEvents id events).jobs := by
  rw [storeEvents]
  split
  · exact .refl _
  · split
    · next jobs changed =>
        have added : deposit.jobs.KeepsStates jobs := .of_apply_change changed fun _ => rfl
        exact added.trans (keepsStates_storeCounts { deposit with jobs } id _)
    · exact .refl _

theorem keepsStates_storeRows (deposit : Deposit) (id : Int) (rows : List Fields) :
    deposit.jobs.KeepsStates (deposit.storeRows id rows).jobs := by
  rw [storeRows]
  dsimp only
  split
  · exact .refl _
  · split
    · next jobs changed =>
        have added : deposit.jobs.KeepsStates jobs := .of_apply_change changed fun _ => rfl
        exact added.trans
          (keepsStates_storeCounts { jobs, nextRow := deposit.nextRow + rows.length } id rows)
    · exact .refl _

theorem keepsStates_store (deposit : Deposit) (outputType : PipeType) (id : Int) (batch : Batch) :
    deposit.jobs.KeepsStates (deposit.store outputType id batch).jobs := by
  rw [Deposit.store]
  split
  · exact keepsStates_storeRows deposit id batch.rows
  · exact keepsStates_storeEvents deposit id batch.events

/-- Storing batches changes no state. -/
theorem keepsStates_foldl_store (deposit : Deposit) (outputType : PipeType) (id : Int)
    (batches : List Batch) :
    deposit.jobs.KeepsStates (batches.foldl (Deposit.store outputType id) deposit).jobs := by
  induction batches generalizing deposit with
  | nil => exact .refl _
  | cons batch batches inductionHypothesis =>
      exact (keepsStates_store deposit outputType id batch).trans (inductionHypothesis _)

end Deposit

/-! ## The engine -/

namespace JobEngine

/-- The state of a stored job. -/
def state? (engine : JobEngine) (id : Int) : Option JobState :=
  engine.jobs.store.state? id

variable {engine : JobEngine} {id : Int}

/-- Only a running job is moved to its last state, and only if that can be written. -/
theorem record?_finish (engine : JobEngine) (id : Int) (state : JobState) (other : Int) :
    (engine.finish id state).jobs.store.record? other =
      if other = id ∧ engine.state? id = some .running ∧ engine.jobs.outage .setState = none then
        (engine.jobs.store.record? other).map (JobRecord.setState state)
      else engine.jobs.store.record? other := by
  rw [finish]
  cases changed : engine.jobs.setState id state with
  | ok jobs =>
      obtain ⟨works, store, stored, rfl⟩ := JobConnection.apply_eq_ok_iff.mp changed
      obtain ⟨record, found, running, -⟩ := JobStore.change_eq_ok_iff.mp stored
      have isRunning : engine.state? id = some .running :=
        JobStore.state?_eq_some_iff.mpr ⟨record, found, running⟩
      rw [Except.toOption, Option.getD_some, JobStore.record?_of_change stored]
      by_cases same : other = id
      · rw [if_pos same, if_pos ⟨same, isRunning, works⟩, same]
      · rw [if_neg same, if_neg fun holds => same holds.1]
  | error error =>
      rw [Except.toOption, Option.getD_none, if_neg]
      rintro ⟨-, isRunning, works⟩
      obtain ⟨record, found, running⟩ := JobStore.state?_eq_some_iff.mp isRunning
      obtain ⟨jobs, succeeds, -⟩ :=
        JobConnection.apply_change_of_running (JobRecord.setState state) works found running
      have made : engine.jobs.setState id state = .ok jobs := succeeds
      rw [changed] at made
      cases made

theorem outage_finish (engine : JobEngine) (id : Int) (state : JobState) :
    (engine.finish id state).jobs.outage = engine.jobs.outage := by
  rw [finish]
  cases changed : engine.jobs.setState id state with
  | ok jobs =>
      obtain ⟨-, store, -, rfl⟩ := JobConnection.apply_eq_ok_iff.mp changed
      rfl
  | error error => rfl

/-- A job that is not running is only forgotten. -/
theorem jobs_finish_of_not_running (notRunning : engine.state? id ≠ some .running)
    (state : JobState) : (engine.finish id state).jobs = engine.jobs := by
  rw [finish]
  cases changed : engine.jobs.setState id state with
  | ok jobs =>
      obtain ⟨-, store, stored, -⟩ := JobConnection.apply_eq_ok_iff.mp changed
      obtain ⟨record, found, running, -⟩ := JobStore.change_eq_ok_iff.mp stored
      exact absurd (JobStore.state?_eq_some_iff.mpr ⟨record, found, running⟩) notRunning
  | error error => rfl

theorem state?_finish (works : engine.jobs.outage .setState = none) (id : Int) (state : JobState)
    (other : Int) :
    (engine.finish id state).state? other =
      if other = id ∧ engine.state? other = some .running then some state
      else engine.state? other := by
  rw [state?, state?, JobStore.state?, JobStore.state?, record?_finish]
  by_cases same : other = id
  · subst same
    by_cases running : engine.state? other = some .running
    · rw [if_pos ⟨rfl, running, works⟩, if_pos ⟨rfl, running⟩]
      obtain ⟨record, found, -⟩ := JobStore.state?_eq_some_iff.mp running
      rw [found]
      rfl
    · rw [if_neg fun holds => running holds.2.1, if_neg fun holds => running holds.2]
  · rw [if_neg fun holds => same holds.1, if_neg fun holds => same holds.1]

/-- A job that is finished stays stored, and so does every other. -/
theorem isSome_state?_finish (engine : JobEngine) (id : Int) (state : JobState) (other : Int) :
    ((engine.finish id state).state? other).isSome = (engine.state? other).isSome := by
  rw [state?, state?, JobStore.state?, JobStore.state?, record?_finish]
  split
  · rw [Option.isSome_map, Option.isSome_map, Option.isSome_map]
  · rfl

theorem mem_running_finish {state : JobState} {other : Int} :
    other ∈ (engine.finish id state).running ↔ other ≠ id ∧ other ∈ engine.running :=
  JobRegistry.mem_running_remove

/-- Finish several jobs. -/
def finishAll (engine : JobEngine) (ids : List Int) (state : JobState) : JobEngine :=
  ids.foldl (fun engine id => engine.finish id state) engine

section FinishAll

variable {state : JobState} {ids : List Int} {other : Int}

theorem outage_finishAll (engine : JobEngine) (ids : List Int) (state : JobState) :
    (engine.finishAll ids state).jobs.outage = engine.jobs.outage := by
  induction ids generalizing engine with
  | nil => rfl
  | cons id ids inductionHypothesis =>
      exact (inductionHypothesis (engine.finish id state)).trans (outage_finish engine id state)

theorem state?_finishAll (works : engine.jobs.outage .setState = none) (ids : List Int)
    (state : JobState) (other : Int) :
    (engine.finishAll ids state).state? other =
      if other ∈ ids ∧ engine.state? other = some .running then some state
      else engine.state? other := by
  induction ids generalizing engine with
  | nil => rw [if_neg fun holds => List.not_mem_nil holds.1]; rfl
  | cons id ids inductionHypothesis =>
      have worksBehind : (engine.finish id state).jobs.outage .setState = none := by
        rw [outage_finish]
        exact works
      have behind := inductionHypothesis worksBehind
      rw [state?_finish works] at behind
      refine Eq.trans behind ?_
      by_cases running : engine.state? other = some .running
      · by_cases same : other = id
        · simp [same ▸ running, same]
        · simp [running, same]
      · simp [running]

theorem isSome_state?_finishAll (engine : JobEngine) (ids : List Int) (state : JobState)
    (other : Int) :
    ((engine.finishAll ids state).state? other).isSome = (engine.state? other).isSome := by
  induction ids generalizing engine with
  | nil => rfl
  | cons id ids inductionHypothesis =>
      exact (inductionHypothesis (engine.finish id state)).trans
        (isSome_state?_finish engine id state other)

theorem mem_running_finishAll :
    other ∈ (engine.finishAll ids state).running ↔ other ∉ ids ∧ other ∈ engine.running := by
  induction ids generalizing engine with
  | nil => exact ⟨fun member => ⟨List.not_mem_nil, member⟩, And.right⟩
  | cons id ids inductionHypothesis =>
      refine inductionHypothesis.trans ?_
      rw [mem_running_finish, List.mem_cons, not_or, and_assoc, and_left_comm]

theorem hasStopped_finishAll (engine : JobEngine) (ids : List Int) (state : JobState) :
    (engine.finishAll ids state).registry.hasStopped = engine.registry.hasStopped := by
  induction ids generalizing engine with
  | nil => rfl
  | cons id ids inductionHypothesis => exact inductionHypothesis (engine.finish id state)

end FinishAll

end JobEngine

end LogQuery
