import LogQuery.Proofs.Job.Provenance
import LogQuery.Proofs.Job.Registry

/-!
# Starting jobs

A query may not compile, its job may not be recorded, or the job may be refused by a registry that
has stopped.  In the last case the record is there already and has to be corrected, which may fail
as well.  That the registry is left as it was rests on its whole history: the engine changes it only
by calls to it, and a registry that has stopped does not change any more.
-/

namespace LogQuery

open LogQuery.Config LogQuery.Pipeline

/-! ## The history of the registry -/

namespace JobRegistry

/-- Some calls make one registry out of another. -/
def Leads {Token : Type} (before behind : JobRegistry Token) : Prop :=
  ∃ calls, before.serveAll calls = behind

namespace Leads

variable {Token : Type} {first second third registry : JobRegistry Token}

theorem refl (registry : JobRegistry Token) : registry.Leads registry := ⟨[], rfl⟩

theorem trans (before : first.Leads second) (behind : second.Leads third) : first.Leads third := by
  obtain ⟨callsBefore, rfl⟩ := before
  obtain ⟨callsBehind, rfl⟩ := behind
  exact ⟨callsBefore ++ callsBehind, List.foldl_append⟩

theorem serve (registry : JobRegistry Token) (call : RegistryCall Token) :
    registry.Leads (registry.serve call).2 :=
  ⟨[call], rfl⟩

theorem register (running : registry.hasStopped = false) (id : Int) (token : Token) :
    registry.Leads { registry with tokens := registry.tokens.insert id token } := by
  have leads := serve registry (.register id token)
  rwa [serve_register, if_neg (ne_true_of_eq_false running)] at leads

theorem tokens_of_stopped (leads : empty.Leads registry) (stopped : registry.hasStopped = true) :
    registry.tokens = ∅ := by
  obtain ⟨calls, rfl⟩ := leads
  by_cases isShutdown : .shutdown ∈ calls
  · exact (stopped_serveAll_of_mem isShutdown).2
  · rw [hasStopped_serveAll_of_not_mem isShutdown] at stopped
    cases stopped

/-- A registry that has stopped has nothing to forget. -/
theorem remove_of_stopped (leads : empty.Leads registry) (stopped : registry.hasStopped = true)
    (id : Int) : registry.remove id = registry :=
  serve_of_stopped stopped (leads.tokens_of_stopped stopped) (.remove id)

end Leads

end JobRegistry

namespace JobEngine

theorem leads_finishAllThrough (engine : JobEngine) (outages : Outages) (state : JobState)
    (ids : List Int) :
    engine.registry.Leads (engine.finishAllThrough outages state ids).registry := by
  induction ids generalizing engine outages with
  | nil => exact .refl _
  | cons id ids inductionHypothesis =>
      let finished := (engine.facing (outages 0)).finish id state
      have removes : engine.registry.Leads finished.registry :=
        .serve engine.registry (.remove id)
      exact removes.trans (inductionHypothesis finished (outages.behind 1))

theorem leads_executeThrough (engine : JobEngine) (outages : Outages) (id : Int)
    (pipeline : Pipeline) :
    engine.registry.Leads (engine.executeThrough outages id pipeline).registry := by
  rw [executeThrough_eq]
  dsimp only
  split
  · exact .refl _
  · exact .serve engine.registry (.remove id)

theorem leads_startThrough (engine : JobEngine) (outages : Outages) (query : String)
    (range : TimeRange) :
    engine.registry.Leads (engine.startThrough outages query range).2.registry := by
  rcases startThrough_cases engine outages query range with ⟨error, start_eq⟩ |
    ⟨pipeline, -, ⟨-, start_eq⟩ | ⟨accepts, start_eq⟩⟩
  · rw [start_eq]
    exact .refl _
  · rw [start_eq]
    exact .serve engine.registry (.remove _)
  · let enrolled := (engine.facing (outages 0)).enroll (newJob pipeline query range)
    have registers : engine.registry.Leads enrolled.registry := .register accepts _ _
    rw [start_eq]
    exact registers.trans (leads_executeThrough enrolled (outages.behind 1) _ pipeline)

theorem leads_abort (engine : JobEngine) (id : Int) :
    engine.registry.Leads (engine.abort id).2.registry := by
  rw [abort_eq]
  split
  · exact (JobRegistry.Leads.serve engine.registry (.cancel id)).trans (.serve _ (.remove id))
  · next unregistered =>
      rcases requestAbort_cases unregistered with ⟨error, requested, -⟩ | ⟨jobs, requested, -⟩
      · rw [requested]
        exact .refl _
      · rw [requested]
        exact .refl _

/-- Whatever is done with an engine, its registry changes by calls to it. -/
theorem leads_undergoThrough (engine : JobEngine) (outages : Outages) (occurrence : Occurrence) :
    engine.registry.Leads (engine.undergoThrough outages occurrence).registry := by
  cases occurrence with
  | outage outage => exact .refl _
  | write write => exact .refl _
  | operation operation =>
      cases operation with
      | start query range => exact leads_startThrough engine outages query range
      | abort id => exact leads_abort (engine.facing (outages 0)) id
      | shutdown =>
          have leads := JobRegistry.Leads.serve engine.registry .shutdown
          have same := registry_shutdownThrough engine outages
          exact same.symm ▸ leads
      | closeStreams => exact leads_finishAllThrough engine outages .finished engine.running
      | addEvent event => exact .refl _
      | setConfig config => exact .refl _
      | keepOpen keepsOpen => exact .refl _

theorem leads_undergoAllThrough (engine : JobEngine) (history : List (Occurrence × Outages)) :
    engine.registry.Leads (engine.undergoAllThrough history).registry := by
  induction history generalizing engine with
  | nil => exact .refl _
  | cons event history inductionHypothesis =>
      exact (leads_undergoThrough engine event.2 event.1).trans (inductionHypothesis _)

end JobEngine

/-! ## Jobs that are refused -/

namespace JobStore

/-- How many stored jobs are running. -/
def runningCount (store : JobStore) : Nat :=
  store.records.countP fun record => decide (record.state = .running)

/-- A new job can be moved to any state at once. -/
theorem setState_insert (store : JobStore) (job : NewJob) (state : JobState) :
    (store.insert job).2.setState (store.insert job).1 state =
      .ok { records := store.records ++ [{ job, state }] } := by
  refine change_eq_ok_iff.mpr ⟨{ job }, record?_insert_self store job, rfl, ?_⟩
  simp [insert, JobRecord.setState]

end JobStore

namespace JobEngine

variable {engine : JobEngine} {query : String} {range : TimeRange} {settled : JobEngine}

theorem runningCount_finish_addJob (works : engine.jobs.outage .setState = none) (job : NewJob) :
    ((engine.addJob job).finish (engine.jobs.store.insert job).1 .aborted).jobs.store.runningCount =
      engine.jobs.store.runningCount := by
  have aborted : (engine.addJob job).jobs.setState (engine.jobs.store.insert job).1 .aborted =
      .ok { engine.jobs with
            store := { records := engine.jobs.store.records ++ [{ job, state := .aborted }] } } :=
    JobConnection.apply_eq_ok_iff.mpr ⟨works, _, JobStore.setState_insert _ job .aborted, rfl⟩
  rw [finish, aborted]
  exact List.countP_append

/-- A start that fails leaves the registry alone, and it leaves as many running jobs as before
unless the record of a refused job cannot be corrected. -/
theorem start_eq_error (leads : JobRegistry.empty.Leads engine.registry) {error : Failure}
    (fails : engine.start query range = (.error error, settled)) :
    (error.isOfQuery = true → settled = engine) ∧ settled.registry = engine.registry ∧
      (engine.jobs.outage .setState = none →
        settled.jobs.store.runningCount = engine.jobs.store.runningCount) := by
  rcases startThrough_cases engine (.always engine.jobs.outage) query range with
    ⟨cause, start_eq⟩ | ⟨pipeline, -, ⟨stopped, start_eq⟩ | ⟨-, start_eq⟩⟩
  · cases start_eq.symm.trans fails
    exact ⟨fun _ => rfl, rfl, fun _ => rfl⟩
  · -- Giving the job up removes it from the registry, which has stopped and never held it.
    cases start_eq.symm.trans fails
    refine ⟨?_, leads.remove_of_stopped stopped _, ?_⟩
    · intro isOfQuery
      cases isOfQuery
    · intro works
      exact runningCount_finish_addJob works (newJob pipeline query range)
  · cases start_eq.symm.trans fails

theorem exists_start_eq_ok_iff :
    (∃ id settled, engine.start query range = (.ok id, settled)) ↔
      (∃ pipeline, Pipeline.compile .builtin query range = .ok pipeline) ∧
        engine.jobs.outage .insert = none ∧ engine.registry.hasStopped = false := by
  simp only [start_eq_ok_iff]
  constructor
  · rintro ⟨_, _, pipeline, compiled, records, accepts, -, -⟩
    exact ⟨⟨pipeline, compiled⟩, records, accepts⟩
  · rintro ⟨⟨pipeline, compiled⟩, records, accepts⟩
    exact ⟨_, _, pipeline, compiled, records, accepts, rfl, rfl⟩

theorem record?_eq_none_of_start {id : Int}
    (started : engine.start query range = (.ok id, settled)) :
    engine.jobs.store.record? id = none := by
  obtain ⟨pipeline, -, -, -, rfl, -⟩ := start_eq_ok_iff.mp started
  exact JobStore.record?_insert_fst engine.jobs.store _

/-- Let anything happen to an engine, whatever fails in its course, and then start a job while some
kinds of requests fail.  The start succeeds exactly if the query compiles, jobs can be recorded and
the registry has not stopped.  If the query is at fault, nothing has changed: neither the stored
jobs and with them the number of the next one, nor the registry, nor anything else.  Whatever the
error is, the registry has not changed, and there are as many running jobs as before if states can
be written.  A job that is started has a number that no stored job had; its record says what was
asked for, and of which kind and in which order the results of its pipeline are. -/
theorem start_records_a_job_or_leaves_none_running (events : EventStore) (configs : ConfigSource)
    (jobs : JobConnection) (keepsOpen : Bool) (history : List (Occurrence × Outages))
    (outage : StoreRequest → Option String) (query : String) (range : TimeRange) :
    let engine := ((unused events configs jobs keepsOpen).undergoAllThrough history).facing outage
    ((∃ id settled, engine.start query range = (.ok id, settled)) ↔
        (∃ pipeline, Pipeline.compile .builtin query range = .ok pipeline) ∧
          outage .insert = none ∧ engine.registry.hasStopped = false) ∧
      (∀ error settled, engine.start query range = (.error error, settled) →
        (error.isOfQuery = true → settled = engine) ∧
          settled.registry = engine.registry ∧
          (outage .setState = none →
            settled.jobs.store.runningCount = engine.jobs.store.runningCount)) ∧
      ∀ id settled, engine.start query range = (.ok id, settled) →
        engine.jobs.store.record? id = none ∧
          ∃ pipeline record, Pipeline.compile .builtin query range = .ok pipeline ∧
            settled.jobs.store.record? id = some record ∧
            record.job =
              { query, range, sortMode := pipeline.sortMode, outputType := pipeline.outputType
                columns := pipeline.columns } := by
  intro engine
  have leads : JobRegistry.empty.Leads engine.registry :=
    leads_undergoAllThrough (unused events configs jobs keepsOpen) history
  refine ⟨exists_start_eq_ok_iff, fun error settled fails => start_eq_error leads fails,
    fun id settled started => ⟨record?_eq_none_of_start started, ?_⟩⟩
  obtain ⟨pipeline, record, _, _, compiled, found, ofJob, -⟩ :=
    exists_salvages_of_startThrough started []
  exact ⟨pipeline, record, compiled, found, ofJob⟩

-- The record of a refused job can be corrected, unless its state cannot be written.
example :
    let stopped := (unused {} (.constant .everyFile) {} false).undergoAllThrough
      [(.operation .shutdown, .always fun _ => none)]
    let isolated := stopped.facing fun | .setState => some "down" | _ => none
    (stopped.start "a" {}).2.jobs.store.runningCount = 0 ∧
      (isolated.start "a" {}).2.jobs.store.runningCount = 1 := by
  intro stopped isolated
  constructor
  · cbv
  · cbv

end JobEngine

end LogQuery
