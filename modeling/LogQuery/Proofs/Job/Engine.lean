import LogQuery.Proofs.Job.Results
import LogQuery.Proofs.Job.State

/-!
# What the engine does to its jobs

Everything that a run, a start or an abort may do, said once: which states jobs have behind it, and
which jobs are registered.
-/

namespace LogQuery

open LogQuery.Pipeline

namespace JobEngine

variable {engine : JobEngine} {id : Int}

/-! ## Running -/

/-- A run of a job adds results, and then the job waits or is finished. -/
theorem exists_execute_eq (engine : JobEngine) (id : Int) (pipeline : Pipeline) :
    ∃ fed : JobEngine, engine.jobs.KeepsStates fed.jobs ∧ fed.registry = engine.registry ∧
      (engine.execute id pipeline = fed ∨
        ∃ state, (state = .finished ∨ state = .partialFailure) ∧
          engine.execute id pipeline = fed.finish id state) := by
  let emission := pipeline.run ⟨engine.events, engine.configs⟩ false
  let deposit := emission.batches.foldl (Deposit.store pipeline.outputType id)
    { jobs := engine.jobs }
  have keeps : engine.jobs.KeepsStates deposit.jobs :=
    Deposit.keepsStates_foldl_store { jobs := engine.jobs } pipeline.outputType id emission.batches
  refine ⟨{ engine with jobs := deposit.jobs, configs := emission.configs }, keeps, rfl, ?_⟩
  rw [execute_eq]
  dsimp only
  split
  · exact .inl rfl
  · refine .inr ⟨_, ?_, rfl⟩
    split
    · exact .inl rfl
    · exact .inr rfl

theorem outage_execute (engine : JobEngine) (id : Int) (pipeline : Pipeline) :
    (engine.execute id pipeline).jobs.outage = engine.jobs.outage := by
  obtain ⟨fed, keeps, -, execute_eq⟩ := exists_execute_eq engine id pipeline
  rcases execute_eq with waits | ⟨state, -, finishes⟩
  · rw [waits]
    exact keeps.outage_eq
  · rw [finishes, outage_finish]
    exact keeps.outage_eq

theorem hasStopped_execute (engine : JobEngine) (id : Int) (pipeline : Pipeline) :
    (engine.execute id pipeline).registry.hasStopped = engine.registry.hasStopped := by
  obtain ⟨fed, -, registry_eq, execute_eq⟩ := exists_execute_eq engine id pipeline
  rw [← registry_eq]
  rcases execute_eq with waits | ⟨state, -, finishes⟩
  · rw [waits]
  · rw [finishes]
    rfl

/-- A running job that is run still waits or has ended by itself; all other jobs are left alone. -/
theorem exists_state?_execute (works : engine.jobs.outage .setState = none)
    (isRunning : engine.state? id = some .running) (pipeline : Pipeline) :
    ∃ state, state ≠ .aborted ∧
      (∀ other, (engine.execute id pipeline).state? other =
        if other = id then some state else engine.state? other) ∧
      ∀ other, other ∈ (engine.execute id pipeline).running ↔
        (other = id → state = .running) ∧ other ∈ engine.running := by
  obtain ⟨fed, keeps, registry_eq, execute_eq⟩ := exists_execute_eq engine id pipeline
  have state?_eq (other : Int) : fed.state? other = engine.state? other := keeps.state?_eq other
  have running_eq : fed.running = engine.running := congrArg JobRegistry.running registry_eq
  rcases execute_eq with waits | ⟨state, ended, finishes⟩
  · refine ⟨.running, by decide, ?_, ?_⟩
    · intro other
      rw [waits, state?_eq]
      split
      · next same => rw [same, isRunning]
      · rfl
    · intro other
      rw [waits, running_eq]
      exact (and_iff_right fun _ => rfl).symm
  · have worksBehind : fed.jobs.outage .setState = none := by
      rw [keeps.outage_eq]
      exact works
    refine ⟨state, ?_, ?_, ?_⟩
    · rcases ended with rfl | rfl
      · decide
      · decide
    · intro other
      rw [finishes, state?_finish worksBehind, state?_eq]
      by_cases same : other = id
      · rw [if_pos same, if_pos ⟨same, same ▸ isRunning⟩]
      · rw [if_neg same, if_neg fun holds => same holds.1]
    · intro other
      have notRunning : state ≠ .running := by
        rcases ended with rfl | rfl
        · decide
        · decide
      rw [finishes, mem_running_finish, running_eq]
      exact and_congr_left fun _ => ⟨fun different same => absurd same different,
        fun onlyRunning same => notRunning (onlyRunning same)⟩

/-! ## Starting -/

theorem state?_addJob (engine : JobEngine) (job : NewJob) (other : Int) :
    (engine.addJob job).state? other =
      if other = (engine.jobs.store.insert job).1 then some .running else engine.state? other :=
  JobStore.state?_insert engine.jobs.store job other

theorem state?_enroll (engine : JobEngine) (job : NewJob) (other : Int) :
    (engine.enroll job).state? other =
      if other = (engine.jobs.store.insert job).1 then some .running else engine.state? other :=
  JobStore.state?_insert engine.jobs.store job other

theorem mem_running_enroll {job : NewJob} {other : Int} :
    other ∈ (engine.enroll job).running ↔
      other = (engine.jobs.store.insert job).1 ∨ other ∈ engine.running := by
  rw [running, running, JobRegistry.running, JobRegistry.running, enroll, Std.ExtTreeMap.mem_keys,
    Std.ExtTreeMap.mem_keys, Std.ExtTreeMap.mem_insert, Std.compare_eq_iff_eq, eq_comm]

/-- A start leaves nothing behind, or a job that it has aborted, or a job that has begun to run. -/
theorem startThrough_cases (engine : JobEngine) (outages : Outages) (query : String)
    (range : TimeRange) :
    (∃ error, engine.startThrough outages query range =
        (.error error, engine.facing (outages 0))) ∨
      ∃ pipeline, Pipeline.compile .builtin query range = .ok pipeline ∧
        let job := newJob pipeline query range
        let id := (engine.jobs.store.insert job).1
        let facing := engine.facing (outages 0)
        (engine.registry.hasStopped = true ∧
            engine.startThrough outages query range =
              (.error (.registry .stopped), (facing.addJob job).finish id .aborted)) ∨
          engine.registry.hasStopped = false ∧
            engine.startThrough outages query range =
              (.ok id, (facing.enroll job).executeThrough (outages.behind 1) id pipeline) := by
  have prepares := (engine.facing (outages 0)).prepares query range
  unfold startThrough
  generalize (engine.facing (outages 0)).prepare query range = prepared at prepares
  obtain ⟨answer, left⟩ := prepared
  cases prepares with
  | misread compiled => exact .inl ⟨_, rfl⟩
  | unrecorded compiled fails => exact .inl ⟨_, rfl⟩
  | refused compiled job_eq records stopped =>
      subst job_eq
      exact .inr ⟨_, compiled, .inl ⟨stopped, rfl⟩⟩
  | launched compiled job_eq records accepts =>
      subst job_eq
      exact .inr ⟨_, compiled, .inr ⟨accepts, rfl⟩⟩

theorem start_cases (engine : JobEngine) (query : String) (range : TimeRange) :
    (∃ error, engine.start query range = (.error error, engine)) ∨
      (∃ job error, engine.registry.hasStopped = true ∧
        engine.start query range =
          (.error error, (engine.addJob job).finish (engine.jobs.store.insert job).1 .aborted)) ∨
      ∃ job pipeline, engine.registry.hasStopped = false ∧
        engine.start query range =
          (.ok (engine.jobs.store.insert job).1,
            (engine.enroll job).execute (engine.jobs.store.insert job).1 pipeline) := by
  rcases engine.startThrough_cases (.always engine.jobs.outage) query range with
    ⟨error, start_eq⟩ | ⟨pipeline, -, ⟨stopped, start_eq⟩ | ⟨accepts, start_eq⟩⟩
  · exact .inl ⟨error, start_eq⟩
  · exact .inr (.inl ⟨_, _, stopped, start_eq⟩)
  · exact .inr (.inr ⟨_, pipeline, accepts, start_eq⟩)

/-- An engine that has stopped starts nothing. -/
theorem exists_start_eq_error (stopped : engine.registry.hasStopped = true) (query : String)
    (range : TimeRange) : ∃ error settled, engine.start query range = (.error error, settled) := by
  rcases start_cases engine query range with
    ⟨error, start_eq⟩ | ⟨job, error, -, start_eq⟩ | ⟨job, pipeline, accepts, -⟩
  · exact ⟨error, _, start_eq⟩
  · exact ⟨error, _, start_eq⟩
  · cases stopped.symm.trans accepts

/-! ## Aborting -/

theorem requestAbort_of_registered (registered : engine.registry.contains id = true) :
    engine.requestAbort id = (.ok (), { engine with registry := engine.registry.cancel id }) :=
  if_pos registered

/-- Of a job that is not registered nothing but the record may change. -/
theorem requestAbort_cases (unregistered : ¬engine.registry.contains id = true) :
    (∃ error, engine.requestAbort id = (.error error, engine) ∧
        (error = .jobNotFound id ∨ ∃ reason, error = .jobUnverified id reason)) ∨
      ∃ jobs, engine.requestAbort id = (.ok (), { engine with jobs }) ∧
        (jobs = engine.jobs ∨ jobs = (engine.finish id .aborted).jobs) := by
  rw [requestAbort, if_neg unregistered]
  split
  · next missing notGot =>
      refine .inl ⟨_, rfl, .inl ?_⟩
      rw [JobConnection.eq_of_get_eq_jobNotFound notGot]
  · next reason _ _ => exact .inl ⟨_, rfl, .inr ⟨reason, rfl⟩⟩
  · split
    · exact .inr ⟨_, rfl, .inl rfl⟩
    · split
      · next jobs changed =>
          refine .inr ⟨_, rfl, .inr ?_⟩
          rw [finish, changed]
          rfl
      · next reason _ => exact .inl ⟨_, rfl, .inr ⟨reason, rfl⟩⟩

theorem registry_requestAbort (unregistered : ¬engine.registry.contains id = true) :
    (engine.requestAbort id).2.registry = engine.registry := by
  rcases requestAbort_cases unregistered with ⟨error, requested, -⟩ | ⟨jobs, requested, -⟩
  · rw [requested]
  · rw [requested]

/-- An abort that fails says which job it is about and changes nothing.  One that succeeds leaves
the jobs alone or finishes one of them. -/
theorem abort_cases (engine : JobEngine) (id : Int) :
    (∃ error, engine.abort id = (.error error, engine) ∧
        (error = .jobNotFound id ∨ ∃ reason, error = .jobUnverified id reason)) ∨
      ∃ settled, engine.abort id = (.ok (), settled) ∧
        (settled.jobs = engine.jobs ∨ settled.jobs = (engine.finish id .aborted).jobs) ∧
        settled.running ⊆ engine.running ∧
        settled.registry.hasStopped = engine.registry.hasStopped := by
  rw [abort_eq]
  split
  · refine .inr ⟨_, rfl, .inr rfl, ?_, JobRegistry.hasStopped_cancel engine.registry id⟩
    intro other registered
    have stillRegistered := (mem_running_finish.mp registered).2
    rw [running, JobRegistry.running_cancel] at stillRegistered
    exact stillRegistered
  · next unregistered =>
      rcases requestAbort_cases unregistered with refused | ⟨jobs, requested, jobs_eq⟩
      · exact .inl refused
      · exact .inr ⟨_, requested, jobs_eq, List.Subset.refl _, rfl⟩

theorem jobs_abort (engine : JobEngine) (id : Int) :
    (engine.abort id).2.jobs = engine.jobs ∨
      (engine.abort id).2.jobs = (engine.finish id .aborted).jobs := by
  rcases abort_cases engine id with ⟨error, abort_eq, -⟩ | ⟨settled, abort_eq, jobs_eq, -⟩
  · rw [abort_eq]
    exact .inl rfl
  · rw [abort_eq]
    exact jobs_eq

theorem outage_abort (engine : JobEngine) (id : Int) :
    (engine.abort id).2.jobs.outage = engine.jobs.outage := by
  rcases jobs_abort engine id with unchanged | finished
  · rw [unchanged]
  · rw [finished, outage_finish]

theorem running_abort_subset (engine : JobEngine) (id : Int) :
    (engine.abort id).2.running ⊆ engine.running := by
  rcases abort_cases engine id with ⟨error, abort_eq, -⟩ | ⟨settled, abort_eq, -, subset, -⟩
  · rw [abort_eq]
    exact List.Subset.refl _
  · rw [abort_eq]
    exact subset

theorem hasStopped_abort (engine : JobEngine) (id : Int) :
    (engine.abort id).2.registry.hasStopped = engine.registry.hasStopped := by
  rcases abort_cases engine id with ⟨error, abort_eq, -⟩ | ⟨settled, abort_eq, -, -, stopped_eq⟩
  · rw [abort_eq]
  · rw [abort_eq]
    exact stopped_eq

theorem abort_eq_error {error : Failure} {settled : JobEngine}
    (fails : engine.abort id = (.error error, settled)) :
    settled = engine ∧ (error = .jobNotFound id ∨ ∃ reason, error = .jobUnverified id reason) := by
  rcases abort_cases engine id with ⟨cause, abort_eq, about⟩ | ⟨ended, abort_eq, -⟩
  · cases abort_eq.symm.trans fails
    exact ⟨rfl, about⟩
  · cases abort_eq.symm.trans fails

/-- A stored job can be aborted if its record can be looked at and corrected: then it is not
registered any more and has ended, and all other jobs are left alone. -/
theorem exists_abort_eq (gets : engine.jobs.outage .get = none)
    (sets : engine.jobs.outage .setState = none) (stored : (engine.state? id).isSome = true) :
    ∃ settled, engine.abort id = (.ok (), settled) ∧
      (∀ other, settled.state? other =
        if other = id ∧ engine.state? other = some .running then some .aborted
        else engine.state? other) ∧
      ∀ other, other ∈ settled.running ↔ other ≠ id ∧ other ∈ engine.running := by
  suffices abort_eq : ∃ settled, engine.abort id = (.ok (), settled) ∧
      settled.jobs = (engine.finish id .aborted).jobs ∧
      ∀ other, other ∈ settled.running ↔ other ≠ id ∧ other ∈ engine.running by
    obtain ⟨settled, abort_eq, jobs_eq, registered_iff⟩ := abort_eq
    refine ⟨settled, abort_eq, ?_, registered_iff⟩
    intro other
    rw [← state?_finish sets, state?, jobs_eq]
    rfl
  obtain ⟨state, state_eq⟩ := Option.isSome_iff_exists.mp stored
  obtain ⟨record, found, rfl⟩ := JobStore.state?_eq_some_iff.mp state_eq
  rw [abort_eq]
  by_cases registered : engine.registry.contains id = true
  · rw [if_pos registered]
    refine ⟨_, rfl, rfl, ?_⟩
    intro other
    rw [mem_running_finish]
    exact and_congr_right fun _ => by rw [running, running, JobRegistry.running_cancel]
  · rw [if_neg registered, requestAbort, if_neg registered]
    have got : engine.jobs.get id = .ok { record.job with id, state := record.state } := by
      rw [JobConnection.get, JobConnection.attempt, gets]
      exact JobStore.get_eq_ok found
    have isRegistered (other : Int) :
        other ∈ engine.running ↔ other ≠ id ∧ other ∈ engine.running := by
      refine ⟨fun member => ⟨?_, member⟩, And.right⟩
      rintro rfl
      exact registered (JobRegistry.contains_eq_true_iff.mpr member)
    rw [got]
    dsimp only
    by_cases ended : record.state.isTerminal = true
    · rw [if_pos ended]
      refine ⟨_, rfl, (jobs_finish_of_not_running ?_ _).symm, isRegistered⟩
      intro isRunning
      exact JobState.isTerminal_iff.mp ended (Option.some.inj (state_eq.symm.trans isRunning))
    · rw [if_neg ended]
      rw [JobState.isTerminal_iff, not_not] at ended
      obtain ⟨jobs, changed, -⟩ :=
        JobConnection.apply_change_of_running (JobRecord.setState .aborted) sets found ended
      have aborted : engine.jobs.setState id .aborted = .ok jobs := changed
      rw [aborted]
      refine ⟨_, rfl, ?_, isRegistered⟩
      rw [finish, aborted]
      rfl

/-- A job that is neither registered nor stored is not found. -/
theorem abort_of_not_stored (gets : engine.jobs.outage .get = none)
    (unregistered : id ∉ engine.running) (missing : engine.state? id = none) :
    engine.abort id = (.error (.jobNotFound id), engine) := by
  have notContained : ¬engine.registry.contains id = true := fun contained =>
    unregistered (JobRegistry.contains_eq_true_iff.mp contained)
  have notGot : engine.jobs.get id = .error (.jobNotFound id) := by
    rw [JobConnection.get, JobConnection.attempt, gets]
    dsimp only
    rw [JobStore.get, JobStore.record, JobStore.state?_eq_none_iff.mp missing]
    rfl
  rw [abort_eq, if_neg notContained, requestAbort, if_neg notContained, notGot]

end JobEngine

end LogQuery
