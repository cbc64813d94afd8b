import LogQuery.Proofs.Job.History
import Mathlib.Data.List.Induction

/-!
# The life of a job

As long as no request fails and nobody else writes to the store, the registered jobs are those that
the engine has started and that are still running; a job leaves that state once and for all.  All of
this follows from `Turn`, which says what one operation may do to one job.
-/

namespace LogQuery

open LogQuery.Config LogQuery.Pipeline

/-- How the state of a job may change: only from running to an end. -/
def JobState.Settles (before behind : JobState) : Prop :=
  behind = before ∨
    before = .running ∧ (behind = .finished ∨ behind = .aborted ∨ behind = .partialFailure)

namespace JobState

theorem settles_of_ne_running {state : JobState} (ended : state ≠ .running) :
    JobState.Settles .running state := by
  cases state with
  | running => exact absurd rfl ended
  | finished => exact .inr ⟨rfl, .inl rfl⟩
  | aborted => exact .inr ⟨rfl, .inr (.inl rfl)⟩
  | partialFailure => exact .inr ⟨rfl, .inr (.inr rfl)⟩

theorem Settles.trans {first second third : JobState} (before : first.Settles second)
    (behind : second.Settles third) : first.Settles third := by
  rcases behind with rfl | ⟨rfl, ended⟩
  · exact before
  · rcases before with rfl | ⟨-, ended⟩
    · exact .inr ⟨rfl, ended⟩
    · rcases ended with ended | ended | ended
      · cases ended
      · cases ended
      · cases ended

end JobState

namespace JobEngine

/-- The registered jobs are running, no request fails, and an engine that has stopped has none. -/
structure Orderly (engine : JobEngine) : Prop where
  works (request : StoreRequest) : engine.jobs.outage request = none
  runs {id : Int} (registered : id ∈ engine.running) : engine.state? id = some .running
  running_of_hasStopped (stopped : engine.registry.hasStopped = true) : engine.running = []

/-- What one operation may do to one job. -/
inductive Turn (engine : JobEngine) (operation : Operation) (id : Int) : Prop where
  /-- Nothing. -/
  | stays (notStarted : engine.started? operation ≠ some id)
      (state?_eq : (engine.perform operation).state? id = engine.state? id)
      (registered_iff : id ∈ (engine.perform operation).running ↔ id ∈ engine.running)
  /-- It starts the job, which then waits or has ended. -/
  | starts {state : JobState} (accepts : engine.registry.hasStopped = false)
      (isStarted : engine.started? operation = some id) (isNew : engine.state? id = none)
      (state?_eq : (engine.perform operation).state? id = some state)
      (notAborted : state ≠ .aborted)
      (registered_iff : id ∈ (engine.perform operation).running ↔ state = .running)
  /-- It records the job but cannot start it. -/
  | refuses (stopped : engine.registry.hasStopped = true) (isNew : engine.state? id = none)
      (state?_eq : (engine.perform operation).state? id = some .aborted)
      (unregistered : id ∉ (engine.perform operation).running)
  /-- It ends the job. -/
  | ends {state : JobState} (isRunning : engine.state? id = some .running)
      (state?_eq : (engine.perform operation).state? id = some state)
      (ended : state ≠ .running)
      (isAbort : state = .aborted → operation = .abort id ∨ operation = .shutdown)
      (unregistered : id ∉ (engine.perform operation).running)

variable {engine : JobEngine} {operation : Operation}

namespace Orderly

theorem turn_start (orderly : engine.Orderly) (query : String) (range : TimeRange) (id : Int) :
    engine.Turn (.start query range) id := by
  rcases start_cases engine query range with
    ⟨error, start_eq⟩ | ⟨job, error, stopped, start_eq⟩ | ⟨job, pipeline, accepts, start_eq⟩
  · apply Turn.stays
    · rw [started?, start_eq]
      exact (Option.some_ne_none id).symm
    · rw [perform_start, start_eq]
    · rw [perform_start, start_eq]
  · let newId := (engine.jobs.store.insert job).1
    have recorded := state?_addJob engine job id
    have works : (engine.addJob job).jobs.outage .setState = none := orderly.works .setState
    have aborted := state?_finish works newId .aborted id
    by_cases same : id = newId
    · apply Turn.refuses stopped
      · rw [same]
        exact JobStore.state?_insert_fst engine.jobs.store job
      · rw [perform_start, start_eq]
        exact aborted.trans (if_pos ⟨same, recorded.trans (if_pos same)⟩)
      · rw [perform_start, start_eq, mem_running_finish]
        exact fun registered => registered.1 same
    · apply Turn.stays
      · rw [started?, start_eq]
        exact (Option.some_ne_none id).symm
      · rw [perform_start, start_eq]
        refine (aborted.trans (if_neg ?_)).trans (recorded.trans (if_neg same))
        exact fun holds => same holds.1
      · rw [perform_start, start_eq, mem_running_finish]
        exact and_iff_right same
  · let newId := (engine.jobs.store.insert job).1
    have works : (engine.enroll job).jobs.outage .setState = none := orderly.works .setState
    have isRunning : (engine.enroll job).state? newId = some .running :=
      (state?_enroll engine job newId).trans (if_pos rfl)
    obtain ⟨state, notAborted, state?_eq, registered_iff⟩ :=
      exists_state?_execute works isRunning pipeline
    have started_eq : engine.started? (.start query range) = some newId := by
      rw [started?, start_eq]
      rfl
    by_cases same : id = newId
    · apply Turn.starts accepts (by rw [started_eq, same])
      · rw [same]
        exact JobStore.state?_insert_fst engine.jobs.store job
      · rw [perform_start, start_eq]
        exact (state?_eq id).trans (if_pos same)
      · exact notAborted
      · rw [perform_start, start_eq, registered_iff, mem_running_enroll]
        exact ⟨fun holds => holds.1 same, fun waits => ⟨fun _ => waits, .inl same⟩⟩
    · apply Turn.stays
      · rw [started_eq]
        exact fun isNew => same (Option.some.inj isNew).symm
      · rw [perform_start, start_eq, state?_eq, if_neg same, state?_enroll]
        exact if_neg same
      · rw [perform_start, start_eq, registered_iff, mem_running_enroll]
        rw [and_iff_right fun isNew => absurd isNew same]
        exact or_iff_right same

theorem turn_abort (orderly : engine.Orderly) (aborted id : Int) :
    engine.Turn (.abort aborted) id := by
  cases stored : (engine.state? aborted).isSome with
  | false =>
      rw [Option.isSome_eq_false_iff, Option.isNone_iff_eq_none] at stored
      have unregistered : aborted ∉ engine.running := by
        intro registered
        rw [orderly.runs registered] at stored
        cases stored
      have abort_eq := abort_of_not_stored (orderly.works .get) unregistered stored
      apply Turn.stays
      · exact (Option.some_ne_none id).symm
      · rw [perform_abort, abort_eq]
      · rw [perform_abort, abort_eq]
  | true =>
      obtain ⟨settled, abort_eq, state?_eq, registered_iff⟩ :=
        exists_abort_eq (orderly.works .get) (orderly.works .setState) stored
      by_cases changes : id = aborted ∧ engine.state? id = some .running
      · apply Turn.ends changes.2
        · rw [perform_abort, abort_eq]
          exact (state?_eq id).trans (if_pos changes)
        · decide
        · exact fun _ => .inl (by rw [changes.1])
        · rw [perform_abort, abort_eq, registered_iff]
          exact fun member => member.1 changes.1
      · apply Turn.stays
        · exact (Option.some_ne_none id).symm
        · rw [perform_abort, abort_eq]
          exact (state?_eq id).trans (if_neg changes)
        · rw [perform_abort, abort_eq, registered_iff]
          refine ⟨And.right, fun registered => ⟨?_, registered⟩⟩
          intro same
          exact changes ⟨same, orderly.runs registered⟩

/-- Finishing all registered jobs leaves the others alone, also when the registry has changed. -/
theorem state?_finishAll_running (orderly : engine.Orderly) {begun : JobEngine}
    (sameJobs : begun.jobs = engine.jobs) (state : JobState) (id : Int) :
    (begun.finishAll engine.running state).state? id =
      if id ∈ engine.running then some state else engine.state? id := by
  have works : begun.jobs.outage .setState = none := by
    rw [sameJobs]
    exact orderly.works .setState
  have state?_eq : begun.state? id = engine.state? id := by rw [state?, state?, sameJobs]
  rw [state?_finishAll works, state?_eq]
  by_cases registered : id ∈ engine.running
  · rw [if_pos registered, if_pos ⟨registered, orderly.runs registered⟩]
  · rw [if_neg registered, if_neg fun holds => registered holds.1]

theorem turn_closeStreams (orderly : engine.Orderly) (id : Int) :
    engine.Turn .closeStreams id := by
  have state?_eq := orderly.state?_finishAll_running rfl .finished id
  rw [← closeStreams_eq] at state?_eq
  have registered_iff :
      id ∈ engine.closeStreams.running ↔ id ∉ engine.running ∧ id ∈ engine.running := by
    rw [closeStreams_eq]
    exact mem_running_finishAll
  by_cases registered : id ∈ engine.running
  · apply Turn.ends (orderly.runs registered)
    · exact state?_eq.trans (if_pos registered)
    · decide
    · intro isAborted
      cases isAborted
    · exact fun member => (registered_iff.mp member).1 registered
  · apply Turn.stays
    · exact (Option.some_ne_none id).symm
    · exact state?_eq.trans (if_neg registered)
    · exact registered_iff.trans (and_iff_right registered)

theorem turn_shutdown (orderly : engine.Orderly) (id : Int) : engine.Turn .shutdown id := by
  have state?_eq : engine.shutdown.state? id =
      if id ∈ engine.running then some .aborted else engine.state? id := by
    have sameJobs : engine.requestShutdown.jobs = engine.jobs := rfl
    rw [shutdown_eq]
    exact orderly.state?_finishAll_running sameJobs .aborted id
  have unregistered : id ∉ engine.shutdown.running := by
    rw [running, registry_shutdown, JobRegistry.running_shutdown]
    exact List.not_mem_nil
  by_cases registered : id ∈ engine.running
  · apply Turn.ends (orderly.runs registered)
    · exact state?_eq.trans (if_pos registered)
    · decide
    · exact fun _ => .inr rfl
    · exact unregistered
  · apply Turn.stays
    · exact (Option.some_ne_none id).symm
    · exact state?_eq.trans (if_neg registered)
    · exact iff_of_false unregistered registered

theorem turn (orderly : engine.Orderly) (operation : Operation) (id : Int) :
    engine.Turn operation id := by
  cases operation with
  | start query range => exact orderly.turn_start query range id
  | abort aborted => exact orderly.turn_abort aborted id
  | shutdown => exact orderly.turn_shutdown id
  | closeStreams => exact orderly.turn_closeStreams id
  | addEvent event => exact .stays (Option.some_ne_none id).symm rfl .rfl
  | setConfig config => exact .stays (Option.some_ne_none id).symm rfl .rfl
  | keepOpen keepsOpen => exact .stays (Option.some_ne_none id).symm rfl .rfl

/-- What one operation preserves. -/
theorem perform (orderly : engine.Orderly) (operation : Operation) :
    (engine.perform operation).Orderly where
  works request := by
    rw [outage_perform]
    exact orderly.works request
  runs := by
    intro id registered
    cases orderly.turn operation id with
    | stays notStarted state?_eq registered_iff =>
        exact state?_eq.trans (orderly.runs (registered_iff.mp registered))
    | starts accepts isStarted isNew state?_eq notAborted registered_iff =>
        rw [state?_eq, registered_iff.mp registered]
    | refuses stopped isNew state?_eq unregistered => exact absurd registered unregistered
    | ends isRunning state?_eq ended isAbort unregistered => exact absurd registered unregistered
  running_of_hasStopped := by
    intro stopped
    rcases hasStopped_perform_iff.mp stopped with stopped | rfl
    · rw [List.eq_nil_iff_forall_not_mem]
      intro id
      cases orderly.turn operation id with
      | stays notStarted state?_eq registered_iff =>
          rw [registered_iff, orderly.running_of_hasStopped stopped]
          exact List.not_mem_nil
      | starts accepts => cases stopped.symm.trans accepts
      | refuses stopped isNew state?_eq unregistered => exact unregistered
      | ends isRunning state?_eq ended isAbort unregistered => exact unregistered
    · rw [perform_shutdown, running, registry_shutdown]
      exact JobRegistry.running_shutdown engine.registry

theorem performAll (orderly : engine.Orderly) (operations : List Operation) :
    (engine.performAll operations).Orderly := by
  induction operations generalizing engine with
  | nil => exact orderly
  | cons operation operations inductionHypothesis =>
      exact inductionHypothesis (orderly.perform operation)

/-- A stored job stays stored, and its state settles. -/
theorem exists_settles_perform (orderly : engine.Orderly) (operation : Operation) {id : Int}
    {state : JobState} (stored : engine.state? id = some state) :
    ∃ later, (engine.perform operation).state? id = some later ∧ state.Settles later := by
  cases orderly.turn operation id with
  | stays notStarted state?_eq => exact ⟨state, state?_eq.trans stored, .inl rfl⟩
  | starts accepts isStarted isNew => cases stored.symm.trans isNew
  | refuses stopped isNew => cases stored.symm.trans isNew
  | ends isRunning state?_eq ended =>
      obtain rfl := Option.some.inj (stored.symm.trans isRunning)
      exact ⟨_, state?_eq, JobState.settles_of_ne_running ended⟩

theorem exists_settles_performAll (orderly : engine.Orderly) (operations : List Operation)
    {id : Int} {state : JobState} (stored : engine.state? id = some state) :
    ∃ later, (engine.performAll operations).state? id = some later ∧ state.Settles later := by
  induction operations generalizing engine state with
  | nil => exact ⟨state, stored, .inl rfl⟩
  | cons operation operations inductionHypothesis =>
      obtain ⟨next, storedNext, settlesNext⟩ := orderly.exists_settles_perform operation stored
      obtain ⟨last, storedLast, settlesLast⟩ :=
        inductionHypothesis (orderly.perform operation) storedNext
      exact ⟨last, storedLast, settlesNext.trans settlesLast⟩

end Orderly

/-! ## Histories of an engine without registered jobs -/

section History

variable {operations : List Operation} {id : Int}

/-- The registered jobs are those that the engine has started and that are running. -/
theorem Orderly.mem_running_performAll (orderly : engine.Orderly)
    (unregistered : engine.running = []) :
    id ∈ (engine.performAll operations).running ↔
      id ∈ engine.started operations ∧
        (engine.performAll operations).state? id = some .running := by
  induction operations using List.reverseRecOn with
  | nil =>
      rw [JobEngine.performAll, List.foldl_nil, unregistered, started]
      exact iff_of_false List.not_mem_nil fun holds => List.not_mem_nil holds.1
  | append_singleton before operation inductionHypothesis =>
      rw [performAll_append, mem_started_append]
      change id ∈ ((engine.performAll before).perform operation).running ↔
        _ ∧ ((engine.performAll before).perform operation).state? id = _
      cases (orderly.performAll before).turn operation id with
      | stays notStarted state?_eq registered_iff =>
          rw [registered_iff, state?_eq, inductionHypothesis, or_iff_left notStarted]
      | starts accepts isStarted isNew state?_eq notAborted registered_iff =>
          rw [registered_iff, state?_eq, Option.some.injEq, and_iff_right (.inr isStarted)]
      | refuses stopped isNew state?_eq unregistered =>
          rw [state?_eq]
          apply iff_of_false unregistered
          intro holds
          cases holds.2
      | @ends state isRunning state?_eq ended isAbort unregistered =>
          apply iff_of_false unregistered
          intro holds
          exact ended (Option.some.inj (state?_eq.symm.trans holds.2))

/-- Whatever is running either has been started or was running before. -/
theorem Orderly.mem_started_or_state?_eq_running (orderly : engine.Orderly)
    (isRunning : (engine.performAll operations).state? id = some .running) :
    id ∈ engine.started operations ∨ engine.state? id = some .running := by
  induction operations using List.reverseRecOn with
  | nil => exact .inr isRunning
  | append_singleton before operation inductionHypothesis =>
      rw [performAll_append] at isRunning
      rw [mem_started_append]
      cases (orderly.performAll before).turn operation id with
      | stays notStarted state?_eq =>
          exact (inductionHypothesis (state?_eq.symm.trans isRunning)).imp_left .inl
      | starts accepts isStarted => exact .inl (.inr isStarted)
      | refuses stopped isNew state?_eq => cases state?_eq.symm.trans isRunning
      | ends wasRunning state?_eq ended =>
          exact absurd (Option.some.inj (state?_eq.symm.trans isRunning)) ended

/-- Whatever has been started is stored. -/
theorem Orderly.isSome_state?_of_mem_started (orderly : engine.Orderly)
    (isStarted : id ∈ engine.started operations) :
    ((engine.performAll operations).state? id).isSome = true := by
  induction operations using List.reverseRecOn with
  | nil => cases isStarted
  | append_singleton before operation inductionHypothesis =>
      rw [performAll_append]
      rcases mem_started_append.mp isStarted with isStarted | isStarted
      · obtain ⟨state, stored⟩ := Option.isSome_iff_exists.mp (inductionHypothesis isStarted)
        obtain ⟨later, storedLater, -⟩ :=
          (orderly.performAll before).exists_settles_perform operation stored
        exact Option.isSome_iff_exists.mpr ⟨later, storedLater⟩
      · apply Option.isSome_iff_exists.mpr
        cases (orderly.performAll before).turn operation id with
        | stays notStarted => exact absurd isStarted notStarted
        | starts accepts isStarted isNew state?_eq => exact ⟨_, state?_eq⟩
        | refuses stopped isNew state?_eq => exact ⟨_, state?_eq⟩
        | ends isRunning state?_eq => exact ⟨_, state?_eq⟩

/-- Whatever is aborted was aborted before, or while it was running, or the engine has been shut
down. -/
theorem Orderly.exists_abort_of_aborted (orderly : engine.Orderly)
    (accepts : engine.registry.hasStopped = false)
    (isAborted : (engine.performAll operations).state? id = some .aborted) :
    engine.state? id = some .aborted ∨ .shutdown ∈ operations ∨
      ∃ before behind, operations = before ++ .abort id :: behind ∧
        (engine.performAll before).state? id = some .running := by
  induction operations using List.reverseRecOn with
  | nil => exact .inl isAborted
  | append_singleton before operation inductionHypothesis =>
      rw [performAll_append] at isAborted
      cases (orderly.performAll before).turn operation id with
      | stays notStarted state?_eq =>
          rcases inductionHypothesis (state?_eq.symm.trans isAborted) with
            already | isShutdown | ⟨earlier, behind, rfl, isRunning⟩
          · exact .inl already
          · exact .inr (.inl (List.mem_append_left _ isShutdown))
          · refine .inr (.inr ⟨earlier, behind ++ [operation], ?_, isRunning⟩)
            rw [List.append_assoc, List.cons_append]
      | starts acceptsStill isStarted isNew state?_eq notAborted =>
          exact absurd (Option.some.inj (state?_eq.symm.trans isAborted)) notAborted
      | refuses stopped =>
          rcases hasStopped_performAll_iff.mp stopped with stopped | isShutdown
          · cases stopped.symm.trans accepts
          · exact .inr (.inl (List.mem_append_left _ isShutdown))
      | ends isRunning state?_eq ended isAbort =>
          rcases isAbort (Option.some.inj (state?_eq.symm.trans isAborted)) with rfl | rfl
          · exact .inr (.inr ⟨before, [], rfl, isRunning⟩)
          · exact .inr (.inl (List.mem_append_right _ List.mem_cons_self))

/-- After a shutdown nothing is running that was not running before. -/
theorem Orderly.state?_eq_running_of_shutdown (orderly : engine.Orderly)
    (unregistered : engine.running = []) (isShutdown : .shutdown ∈ operations)
    (isRunning : (engine.performAll operations).state? id = some .running) :
    engine.state? id = some .running := by
  have stopped : (engine.performAll operations).registry.hasStopped = true :=
    hasStopped_performAll_iff.mpr (.inr isShutdown)
  rcases orderly.mem_started_or_state?_eq_running isRunning with isStarted | already
  · have registered := (orderly.mem_running_performAll unregistered).mpr ⟨isStarted, isRunning⟩
    rw [(orderly.performAll operations).running_of_hasStopped stopped] at registered
    cases registered
  · exact already

end History

/-- An unused engine is orderly if no request to its store fails. -/
theorem orderly_unused (events : EventStore) (configs : ConfigSource) (store : JobStore)
    (keepsOpen : Bool) : (unused events configs { store } keepsOpen).Orderly where
  works _ := rfl
  runs registered := by
    rw [running, unused, JobRegistry.running_empty] at registered
    cases registered
  running_of_hasStopped stopped := by cases stopped

/-- Use an engine in any way, while no request fails and nobody else writes to its store.  Before a
shutdown the registered jobs are exactly those that it has started and that are running.  After a
shutdown there are none, all jobs that it has started have ended, and a start fails without leaving
a running job.  The state of a job changes once at most, from running to an end, and a job becomes
aborted only by a shutdown or if it is aborted while it is running. -/
theorem registered_jobs_are_the_running_ones (events : EventStore) (configs : ConfigSource)
    (store : JobStore) (keepsOpen : Bool) (operations : List Operation) :
    let initial := unused events configs { store } keepsOpen
    let settled := initial.performAll operations
    (.shutdown ∉ operations → ∀ id, id ∈ settled.running ↔
        id ∈ initial.started operations ∧ settled.state? id = some .running) ∧
      (.shutdown ∈ operations →
        settled.running = [] ∧
          (∀ id ∈ initial.started operations, ∃ state, settled.state? id = some state ∧
            state.isTerminal = true) ∧
          ∀ query range, ∃ error refused, settled.start query range = (.error error, refused) ∧
            ∀ id, refused.state? id = some .running → initial.state? id = some .running) ∧
      ∀ id,
        (∀ before behind, operations = before ++ behind →
          ∀ state, (initial.performAll before).state? id = some state →
            ∃ later, settled.state? id = some later ∧ state.Settles later) ∧
          (settled.state? id = some .aborted → initial.state? id ≠ some .aborted →
            .shutdown ∈ operations ∨
              ∃ before behind, operations = before ++ .abort id :: behind ∧
                (initial.performAll before).state? id = some .running) := by
  intro initial settled
  have orderly : initial.Orderly := orderly_unused events configs store keepsOpen
  have unregistered : initial.running = [] := JobRegistry.running_empty
  have registered_iff (id : Int) : id ∈ settled.running ↔ _ :=
    orderly.mem_running_performAll unregistered
  refine ⟨fun _ => registered_iff, ?_, ?_⟩
  · intro isShutdown
    have stopped : settled.registry.hasStopped = true :=
      hasStopped_performAll_iff.mpr (.inr isShutdown)
    have running_eq := (orderly.performAll operations).running_of_hasStopped stopped
    refine ⟨running_eq, ?_, ?_⟩
    · intro id isStarted
      obtain ⟨state, stored⟩ :=
        Option.isSome_iff_exists.mp (orderly.isSome_state?_of_mem_started isStarted)
      refine ⟨state, stored, JobState.isTerminal_iff.mpr ?_⟩
      rintro rfl
      have registered := (registered_iff id).mpr ⟨isStarted, stored⟩
      rw [running_eq] at registered
      cases registered
    · intro query range
      have isShutdownStill : .shutdown ∈ operations ++ [.start query range] :=
        List.mem_append_left _ isShutdown
      have leaves (id : Int) (isRunning : (settled.start query range).2.state? id = some .running) :
          initial.state? id = some .running := by
        apply orderly.state?_eq_running_of_shutdown unregistered isShutdownStill
        rw [performAll_append]
        exact isRunning
      obtain ⟨error, refused, start_eq⟩ := exists_start_eq_error stopped query range
      rw [start_eq] at leaves
      exact ⟨error, refused, start_eq, leaves⟩
  · intro id
    constructor
    · intro before behind operations_eq state stored
      have settled_eq : settled = (initial.performAll before).performAll behind := by
        rw [← performAll_append, ← operations_eq]
      rw [settled_eq]
      exact (orderly.performAll before).exists_settles_performAll behind stored
    · intro isAborted notAborted
      exact (orderly.exists_abort_of_aborted rfl isAborted).resolve_left notAborted

-- Two jobs wait for more events, and one of them is aborted.
example :
    let initial := unused {} (.constant .everyFile) {} true
    let operations : List Operation := [.start "a" {}, .start "b" {}, .abort 1]
    initial.started operations = [1, 2] ∧ (initial.performAll operations).running = [2] ∧
      (initial.performAll operations).state? 1 = some .aborted := by
  intro initial operations
  refine ⟨?_, ?_, ?_⟩
  · cbv
  · cbv
  · cbv

end JobEngine

end LogQuery
