import LogQuery.Proofs.Job.State

/-!
# Jobs that are left to themselves

A job that nobody cancels stores its batches one after the other, and then it ends or waits.  What
its turns come to is said here once: the batches are folded into a deposit, each at a moment of its
own, and under one outage throughout the moments do not matter.
-/

namespace LogQuery

open LogQuery.Config LogQuery.Pipeline

/-! ## Batches -/

namespace Deposit

/-- The deposit when these requests fail. -/
def facing (deposit : Deposit) (outage : StoreRequest → Option String) : Deposit :=
  { deposit with jobs := { deposit.jobs with outage } }

/-- Store batches, each at a moment of its own. -/
def storeThrough (outputType : PipeType) (id : Int) (outages : Outages) (deposit : Deposit) :
    List Batch → Deposit
  | [] => deposit
  | batch :: batches =>
      storeThrough outputType id (outages.behind 1)
        ((deposit.facing (outages 0)).store outputType id batch) batches

theorem storeThrough_always {outputType : PipeType} {id : Int}
    {outage : StoreRequest → Option String} (deposit : Deposit)
    (faces : deposit.jobs.outage = outage) (batches : List Batch) :
    deposit.storeThrough outputType id (.always outage) batches =
      batches.foldl (Deposit.store outputType id) deposit := by
  induction batches generalizing deposit with
  | nil => rfl
  | cons batch batches inductionHypothesis =>
      subst faces
      exact inductionHypothesis _ (keepsStates_store deposit outputType id batch).outage_eq

end Deposit

namespace JobEngine

variable {engine : JobEngine}

theorem facing_of_outage_eq {outage : StoreRequest → Option String}
    (faces : engine.jobs.outage = outage) : engine.facing outage = engine := by
  subst faces
  rfl

/-! ## Turns -/

/-- All turns of a job store its batches and then bring it to its end, unless it waits. -/
theorem settleThrough_eq (outages : Outages) (engine : JobEngine) (job : LiveJob) :
    engine.settleThrough outages job =
      let deposit := Deposit.storeThrough job.outputType job.id outages ⟨engine.jobs, job.nextRow⟩
        job.pending
      let fed := facing { engine with jobs := deposit.jobs } (outages job.pending.length)
      match job.ending? with
      | some state => fed.finish job.id state
      | none => fed := by
  obtain ⟨id, outputType, pending, nextRow, ending?⟩ := job
  unfold settleThrough
  -- The moments of the later turns are those behind the first.
  induction pending generalizing outages engine nextRow with
  | nil =>
      cases ending? with
      | none => rfl
      | some state => rfl
  | cons batch pending inductionHypothesis =>
      let deposit := Deposit.store outputType id ⟨(engine.facing (outages 0)).jobs, nextRow⟩ batch
      exact inductionHypothesis (outages.behind 1)
        { engine.facing (outages 0) with jobs := deposit.jobs } deposit.nextRow

theorem executeThrough_eq (outages : Outages) (engine : JobEngine) (id : Int)
    (pipeline : Pipeline) :
    engine.executeThrough outages id pipeline =
      let emission := pipeline.run ⟨engine.events, engine.configs⟩ false
      let deposit := Deposit.storeThrough pipeline.outputType id outages { jobs := engine.jobs }
        emission.batches
      let fed := facing { engine with jobs := deposit.jobs, configs := emission.configs }
        (outages emission.batches.length)
      if emission.exhausted && engine.keepsOpen then fed
      else fed.finish id (if emission.failures.isEmpty then .finished else .partialFailure) := by
  unfold executeThrough launch
  dsimp only
  rw [settleThrough_eq]
  dsimp only
  cases emission_waits : (pipeline.run ⟨engine.events, engine.configs⟩ false).exhausted &&
      engine.keepsOpen with
  | true => rfl
  | false => rfl

theorem execute_eq (engine : JobEngine) (id : Int) (pipeline : Pipeline) :
    engine.execute id pipeline =
      let emission := pipeline.run ⟨engine.events, engine.configs⟩ false
      let deposit := emission.batches.foldl (Deposit.store pipeline.outputType id)
        { jobs := engine.jobs }
      let fed := { engine with jobs := deposit.jobs, configs := emission.configs }
      if emission.exhausted && engine.keepsOpen then fed
      else fed.finish id (if emission.failures.isEmpty then .finished else .partialFailure) := by
  have keeps := Deposit.keepsStates_foldl_store { jobs := engine.jobs } pipeline.outputType id
    (pipeline.run ⟨engine.events, engine.configs⟩ false).batches
  rw [execute, executeThrough_eq]
  dsimp only
  rw [Deposit.storeThrough_always { jobs := engine.jobs } rfl, Outages.always,
    facing_of_outage_eq keeps.outage_eq]

/-! ## Starting -/

/-- The engine in which a new job has been recorded only. -/
def addJob (engine : JobEngine) (job : NewJob) : JobEngine :=
  { engine with jobs := { engine.jobs with store := (engine.jobs.store.insert job).2 } }

/-- The engine in which a new job has been recorded and registered. -/
def enroll (engine : JobEngine) (job : NewJob) : JobEngine :=
  let (id, store) := engine.jobs.store.insert job
  { engine with
    jobs := { engine.jobs with store }
    registry := { engine.registry with tokens := engine.registry.tokens.insert id id } }

/-- What becomes of a query that is to be started as a job. -/
inductive Prepares (engine : JobEngine) (query : String) (range : TimeRange) :
    Except Failure LiveJob → JobEngine → Prop where
  | misread {error : CompileError}
      (compiled : Pipeline.compile .builtin query range = .error error) :
      engine.Prepares query range (.error (.compile error)) engine
  | unrecorded {pipeline : Pipeline} {reason : String}
      (compiled : Pipeline.compile .builtin query range = .ok pipeline)
      (fails : engine.jobs.outage .insert = some reason) :
      engine.Prepares query range (.error (.store (.backend reason))) engine
  | refused {pipeline : Pipeline} {job : NewJob}
      (compiled : Pipeline.compile .builtin query range = .ok pipeline)
      (job_eq : job = newJob pipeline query range)
      (records : engine.jobs.outage .insert = none) (stopped : engine.registry.hasStopped = true) :
      engine.Prepares query range (.error (.registry .stopped))
        ((engine.addJob job).finish (engine.jobs.store.insert job).1 .aborted)
  | launched {pipeline : Pipeline} {job : NewJob}
      (compiled : Pipeline.compile .builtin query range = .ok pipeline)
      (job_eq : job = newJob pipeline query range)
      (records : engine.jobs.outage .insert = none)
      (accepts : engine.registry.hasStopped = false) :
      engine.Prepares query range
        (.ok ((engine.enroll job).launch (engine.jobs.store.insert job).1 pipeline).1)
        ((engine.enroll job).launch (engine.jobs.store.insert job).1 pipeline).2

theorem prepares (engine : JobEngine) (query : String) (range : TimeRange) :
    engine.Prepares query range (engine.prepare query range).1 (engine.prepare query range).2 := by
  rw [prepare]
  cases compiled : Pipeline.compile .builtin query range with
  | error error => exact .misread compiled
  | ok pipeline =>
      dsimp only
      unfold JobConnection.insert JobConnection.attempt
      cases records : engine.jobs.outage .insert with
      | some reason => exact .unrecorded compiled records
      | none =>
          dsimp only
          by_cases stopped : engine.registry.hasStopped = true
          · have refused (id : Int) : engine.registry.register id id = .error .stopped :=
              if_pos stopped
            rw [refused]
            exact .refused compiled rfl records stopped
          · have accepted (id : Int) : engine.registry.register id id =
                .ok { engine.registry with tokens := engine.registry.tokens.insert id id } :=
              if_neg stopped
            rw [accepted]
            exact .launched compiled rfl records (Bool.eq_false_iff.mpr stopped)

/-! ## Stopping -/

theorem abort_eq (engine : JobEngine) (id : Int) :
    engine.abort id =
      if engine.registry.contains id then
        (.ok (), finish { engine with registry := engine.registry.cancel id } id .aborted)
      else engine.requestAbort id := by
  rw [abort]
  by_cases registered : engine.registry.contains id = true
  · have requested : engine.requestAbort id =
        (.ok (), { engine with registry := engine.registry.cancel id }) := if_pos registered
    rw [requested, if_pos registered]
    exact congrArg (Prod.mk _) (if_pos registered)
  · rw [if_neg registered]
    exact congrArg (Prod.mk _) (if_neg registered)

theorem finishAllThrough_always {outage : StoreRequest → Option String}
    (faces : engine.jobs.outage = outage) (ids : List Int) (state : JobState) :
    engine.finishAllThrough (.always outage) state ids = engine.finishAll ids state := by
  induction ids generalizing engine with
  | nil => rfl
  | cons id ids inductionHypothesis =>
      subst faces
      exact inductionHypothesis (outage_finish engine id state)

theorem shutdown_eq (engine : JobEngine) :
    engine.shutdown = engine.requestShutdown.finishAll engine.running .aborted := by
  have faces : engine.requestShutdown.jobs.outage = engine.jobs.outage := rfl
  exact finishAllThrough_always faces engine.running .aborted

theorem closeStreams_eq (engine : JobEngine) :
    engine.closeStreams = engine.finishAll engine.running .finished :=
  finishAllThrough_always rfl engine.running .finished

/-- Jobs that are finished behind a shutdown are forgotten already. -/
theorem registry_finishAllThrough_of_forgotten
    (forgotten : ∀ id, engine.registry.remove id = engine.registry) (outages : Outages)
    (state : JobState) (ids : List Int) :
    (engine.finishAllThrough outages state ids).registry = engine.registry := by
  induction ids generalizing engine outages with
  | nil => rfl
  | cons id ids inductionHypothesis =>
      have removed : ((engine.facing (outages 0)).finish id state).registry = engine.registry :=
        forgotten id
      rw [← removed] at forgotten
      exact (inductionHypothesis forgotten (outages.behind 1)).trans removed

theorem registry_shutdownThrough (engine : JobEngine) (outages : Outages) :
    (engine.shutdownThrough outages).registry = engine.registry.shutdown :=
  registry_finishAllThrough_of_forgotten engine.registry.remove_shutdown outages .aborted
    engine.running

theorem registry_shutdown (engine : JobEngine) :
    engine.shutdown.registry = engine.registry.shutdown :=
  registry_shutdownThrough engine (.always engine.jobs.outage)

end JobEngine

end LogQuery
