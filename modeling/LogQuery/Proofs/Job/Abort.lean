import LogQuery.Proofs.Job.History

/-!
# Aborting jobs

A job that is registered is stored, whatever has happened to the engine.  An abort can therefore
rely on the record of the job, even of one whose last state could not be written: either it leaves a
job that has ended, or it fails and changes nothing.
-/

namespace LogQuery

open LogQuery.Config LogQuery.Pipeline

/-! ## Stored jobs stay stored -/

namespace JobStore

theorem isSome_state?_of_change {store changed : JobStore} {id : Int}
    {update : JobRecord → JobRecord} (succeeds : store.change id update = .ok changed)
    (other : Int) : (changed.state? other).isSome = (store.state? other).isSome := by
  rw [state?, state?, Option.isSome_map, Option.isSome_map, record?_of_change succeeds]
  split
  · next same => rw [Option.isSome_map, same]
  · rfl

end JobStore

namespace JobConnection

variable {connection changed : JobConnection} {id : Int}

theorem isSome_state?_of_apply_change {request : StoreRequest} {update : JobRecord → JobRecord}
    (succeeds : connection.apply request (connection.store.change id update) = .ok changed)
    (other : Int) :
    (changed.store.state? other).isSome = (connection.store.state? other).isSome := by
  obtain ⟨-, store, stored, rfl⟩ := apply_eq_ok_iff.mp succeeds
  exact JobStore.isSome_state?_of_change stored other

theorem isSome_state?_of_insert {job : NewJob}
    (succeeds : connection.insert job = .ok (id, changed)) {other : Int}
    (stored : (connection.store.state? other).isSome = true) :
    (changed.store.state? other).isSome = true := by
  have insert_eq : connection.insert job = connection.attempt .insert
      (.ok ((connection.store.insert job).1,
        { connection with store := (connection.store.insert job).2 })) := rfl
  rw [insert_eq, attempt] at succeeds
  split at succeeds
  · cases succeeds
  · cases succeeds
    dsimp only
    rw [JobStore.state?_insert]
    split
    · rfl
    · exact stored

/-- Whatever others write, they remove no job. -/
theorem isSome_state?_write (write : StoreWrite) {other : Int}
    (stored : (connection.store.state? other).isSome = true) :
    ((connection.write write).store.state? other).isSome = true := by
  have unlessFails {written : Except StoreError JobConnection}
      (keeps : ∀ changed, written = .ok changed → (changed.store.state? other).isSome = true) :
      ((written.toOption.getD connection).store.state? other).isSome = true := by
    cases written with
    | error error => exact stored
    | ok changed => exact keeps changed rfl
  cases write with
  | insert job =>
      apply unlessFails
      intro changed succeeds
      obtain ⟨⟨id, inserted⟩, insert_eq, rfl⟩ := map_eq_ok_iff.mp succeeds
      exact isSome_state?_of_insert insert_eq stored
  | addResults id refs | addRows id rows | addCounts id counts | setState id state =>
      apply unlessFails
      intro changed succeeds
      rw [isSome_state?_of_apply_change succeeds]
      exact stored

end JobConnection

namespace JobEngine

variable {engine : JobEngine} {id : Int}

theorem isSome_state?_execute (engine : JobEngine) (id : Int) (pipeline : Pipeline) (other : Int) :
    ((engine.execute id pipeline).state? other).isSome = (engine.state? other).isSome := by
  obtain ⟨fed, keeps, -, execute_eq⟩ := exists_execute_eq engine id pipeline
  have kept : fed.state? other = engine.state? other := keeps.state?_eq other
  rw [← kept]
  rcases execute_eq with waits | ⟨state, -, finishes⟩
  · rw [waits]
  · rw [finishes, isSome_state?_finish]

theorem running_execute_subset (engine : JobEngine) (id : Int) (pipeline : Pipeline) :
    (engine.execute id pipeline).running ⊆ engine.running := by
  obtain ⟨fed, -, registry_eq, execute_eq⟩ := exists_execute_eq engine id pipeline
  have running_eq : fed.running = engine.running := congrArg JobRegistry.running registry_eq
  intro other registered
  rw [← running_eq]
  rcases execute_eq with waits | ⟨state, -, finishes⟩
  · rw [waits] at registered
    exact registered
  · rw [finishes] at registered
    exact (mem_running_finish.mp registered).2

theorem isSome_state?_abort (engine : JobEngine) (id other : Int) :
    ((engine.abort id).2.state? other).isSome = (engine.state? other).isSome := by
  rw [state?, state?]
  rcases jobs_abort engine id with unchanged | finished
  · rw [unchanged]
  · rw [finished]
    exact isSome_state?_finish engine id .aborted other

/-- All stored jobs are still there, and whatever job has been registered is among them. -/
structure Retains (before behind : JobEngine) : Prop where
  stored {id : Int} (isStored : (before.state? id).isSome = true) :
    (behind.state? id).isSome = true
  registered {id : Int} (isRegistered : id ∈ behind.running) :
    id ∈ before.running ∨ (behind.state? id).isSome = true

theorem Retains.of_subset {before behind : JobEngine}
    (stored : ∀ id, (behind.state? id).isSome = (before.state? id).isSome)
    (registered : behind.running ⊆ before.running) : before.Retains behind where
  stored isStored := (stored _).trans isStored
  registered isRegistered := .inl (registered isRegistered)

theorem Retains.of_unchanged {before behind : JobEngine} (jobs_eq : behind.jobs = before.jobs)
    (registry_eq : behind.registry = before.registry) : before.Retains behind := by
  apply Retains.of_subset
  · intro id
    rw [state?, state?, jobs_eq]
  · rw [running, running, registry_eq]
    exact List.Subset.refl _

theorem retains_start (engine : JobEngine) (query : String) (range : TimeRange) :
    engine.Retains (engine.start query range).2 := by
  rcases start_cases engine query range with
    ⟨error, start_eq⟩ | ⟨job, error, -, start_eq⟩ | ⟨job, pipeline, -, start_eq⟩
  · rw [start_eq]
    exact .of_unchanged rfl rfl
  · rw [start_eq]
    constructor
    · intro id isStored
      rw [isSome_state?_finish, state?_addJob]
      split
      · rfl
      · exact isStored
    · intro id registered
      exact .inl (mem_running_finish.mp registered).2
  · rw [start_eq]
    constructor
    · intro id isStored
      rw [isSome_state?_execute, state?_enroll]
      split
      · rfl
      · exact isStored
    · intro id registered
      rcases mem_running_enroll.mp (running_execute_subset _ _ _ registered) with isNew | before
      · apply Or.inr
        rw [isSome_state?_execute, state?_enroll, if_pos isNew]
        rfl
      · exact .inl before

theorem retains_perform (engine : JobEngine) (operation : Operation) :
    engine.Retains (engine.perform operation) := by
  cases operation with
  | start query range => exact retains_start engine query range
  | abort id => exact .of_subset (isSome_state?_abort engine id) (running_abort_subset engine id)
  | shutdown =>
      apply Retains.of_subset
      · rw [perform_shutdown, shutdown_eq]
        exact isSome_state?_finishAll engine.requestShutdown engine.running .aborted
      · rw [perform_shutdown, running, registry_shutdown, JobRegistry.running_shutdown]
        exact List.nil_subset _
  | closeStreams =>
      apply Retains.of_subset
      · rw [perform_closeStreams, closeStreams_eq]
        exact isSome_state?_finishAll engine engine.running .finished
      · intro other registered
        rw [perform_closeStreams, closeStreams_eq] at registered
        exact (mem_running_finishAll.mp registered).2
  | addEvent event => exact .of_unchanged rfl rfl
  | setConfig config => exact .of_unchanged rfl rfl
  | keepOpen keepsOpen => exact .of_unchanged rfl rfl

theorem retains_undergo (engine : JobEngine) (occurrence : Occurrence) :
    engine.Retains (engine.undergo occurrence) := by
  cases occurrence with
  | operation operation => exact retains_perform engine operation
  | outage outage => exact .of_subset (fun _ => rfl) (List.Subset.refl _)
  | write write => exact ⟨JobConnection.isSome_state?_write write, .inl⟩

/-- Every registered job is stored. -/
def RegistersStored (engine : JobEngine) : Prop :=
  ∀ id ∈ engine.running, (engine.state? id).isSome = true

theorem RegistersStored.undergo (registersStored : engine.RegistersStored)
    (occurrence : Occurrence) : (engine.undergo occurrence).RegistersStored := by
  intro id isRegistered
  have retains := retains_undergo engine occurrence
  rcases retains.registered isRegistered with registeredBefore | isStored
  · exact retains.stored (registersStored id registeredBefore)
  · exact isStored

theorem RegistersStored.undergoAll (registersStored : engine.RegistersStored)
    (occurrences : List Occurrence) : (engine.undergoAll occurrences).RegistersStored := by
  induction occurrences generalizing engine with
  | nil => exact registersStored
  | cons occurrence occurrences inductionHypothesis =>
      exact inductionHypothesis (registersStored.undergo occurrence)

/-! ## What an abort leaves -/

/-- A job that can be aborted has ended then. -/
theorem exists_isTerminal_of_abort (gets : engine.jobs.outage .get = none)
    (sets : engine.jobs.outage .setState = none) (stored : (engine.state? id).isSome = true) :
    ∃ settled, engine.abort id = (.ok (), settled) ∧
      ∃ state, settled.state? id = some state ∧ state.isTerminal = true := by
  obtain ⟨settled, abort_eq, state?_eq, -⟩ := exists_abort_eq gets sets stored
  refine ⟨settled, abort_eq, ?_⟩
  rw [state?_eq]
  by_cases isRunning : engine.state? id = some .running
  · exact ⟨.aborted, if_pos ⟨rfl, isRunning⟩, rfl⟩
  · obtain ⟨state, state_eq⟩ := Option.isSome_iff_exists.mp stored
    rw [if_neg fun holds => isRunning holds.2]
    refine ⟨state, state_eq, JobState.isTerminal_iff.mpr ?_⟩
    rintro rfl
    exact isRunning state_eq

/-- The record of a job that has ended is never touched again. -/
theorem record?_abort_of_isTerminal {record : JobRecord} {other : Int}
    (found : engine.jobs.store.record? other = some record)
    (ended : record.state.isTerminal = true) :
    (engine.abort id).2.jobs.store.record? other = some record := by
  rcases jobs_abort engine id with unchanged | finished
  · rw [unchanged]
    exact found
  · rw [finished, record?_finish, if_neg]
    · exact found
    · rintro ⟨rfl, isRunning, -⟩
      obtain ⟨same, foundAgain, running⟩ := JobStore.state?_eq_some_iff.mp isRunning
      obtain rfl := Option.some.inj (found.symm.trans foundAgain)
      exact JobState.isTerminal_iff.mp ended running

/-- Let anything happen to an engine, and then abort a job.  A stored job has ended then, if its
record can be read and its state can be written; a job that is not stored is not found; records of
jobs that have ended stay as they are; and if the abort fails, nothing has changed at all. -/
theorem abort_ends_the_job_or_changes_nothing (events : EventStore) (configs : ConfigSource)
    (jobs : JobConnection) (keepsOpen : Bool) (occurrences : List Occurrence) (id : Int) :
    let engine := (unused events configs jobs keepsOpen).undergoAll occurrences
    (engine.jobs.outage .get = none → engine.jobs.outage .setState = none →
        (engine.state? id).isSome = true →
        ∃ settled, engine.abort id = (.ok (), settled) ∧
          ∃ state, settled.state? id = some state ∧ state.isTerminal = true) ∧
      (∀ other record, engine.jobs.store.record? other = some record →
        record.state.isTerminal = true →
        (engine.abort id).2.jobs.store.record? other = some record) ∧
      (engine.jobs.outage .get = none → engine.state? id = none →
        engine.abort id = (.error (.jobNotFound id), engine)) ∧
      ∀ error settled, engine.abort id = (.error error, settled) →
        settled = engine ∧
          (error = .jobNotFound id ∨ ∃ reason, error = .jobUnverified id reason) := by
  intro engine
  have registersStored : engine.RegistersStored := by
    apply RegistersStored.undergoAll
    intro id registered
    rw [running, unused, JobRegistry.running_empty] at registered
    cases registered
  refine ⟨exists_isTerminal_of_abort, fun _ _ => record?_abort_of_isTerminal, ?_,
    fun _ _ => abort_eq_error⟩
  intro gets missing
  apply abort_of_not_stored gets
  · intro registered
    have stored := registersStored id registered
    rw [missing] at stored
    cases stored
  · exact missing

-- The last state of a job could not be written, and an abort makes up for it.
example :
    let engine := (unused {} (.constant .everyFile) {} false).undergoAll
      [.outage fun | .setState => some "down" | _ => none, .operation (.start "a" {}),
        .outage fun _ => none]
    engine.running = [] ∧ engine.state? 1 = some .running ∧
      (engine.abort 1).2.state? 1 = some .aborted := by
  intro engine
  refine ⟨?_, ?_, ?_⟩
  · cbv
  · cbv
  · cbv

end JobEngine

end LogQuery
