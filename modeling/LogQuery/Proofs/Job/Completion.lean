import LogQuery.Proofs.Job.Lifecycle
import LogQuery.Proofs.Pipeline.PageReadings

/-!
# How jobs end by themselves

A job that nobody stops ends when its pipeline does, or when the streams of events are closed for
which it waits.  It is finished exactly if every page of its search has been gone through; a search
that breaks off ends as a partial failure, and no later operation covers that up.
-/

namespace LogQuery

open LogQuery.Config LogQuery.Extraction LogQuery.Pipeline LogQuery.Query

namespace JobEngine

variable {engine : JobEngine} {id : Int}

/-- The state in which a run leaves a running job. -/
theorem state?_execute (works : engine.jobs.outage .setState = none)
    (isRunning : engine.state? id = some .running) (pipeline : Pipeline) :
    let emission := pipeline.run ⟨engine.events, engine.configs⟩ false
    (engine.execute id pipeline).state? id =
      some (if emission.exhausted && engine.keepsOpen then .running
        else if emission.failures.isEmpty then .finished else .partialFailure) := by
  intro emission
  let deposit := emission.batches.foldl (Deposit.store pipeline.outputType id)
    { jobs := engine.jobs }
  let fed := { engine with jobs := deposit.jobs, configs := emission.configs }
  have keeps : engine.jobs.KeepsStates deposit.jobs :=
    Deposit.keepsStates_foldl_store { jobs := engine.jobs } pipeline.outputType id emission.batches
  have isRunningStill : fed.state? id = some .running := (keeps.state?_eq id).trans isRunning
  have worksStill : fed.jobs.outage .setState = none :=
    (congrFun keeps.outage_eq .setState).trans works
  have ends : engine.execute id pipeline =
      if emission.exhausted && engine.keepsOpen then fed
      else fed.finish id (if emission.failures.isEmpty then .finished else .partialFailure) :=
    execute_eq engine id pipeline
  rw [ends]
  split
  · exact isRunningStill
  · rw [state?_finish worksStill, if_pos ⟨rfl, isRunningStill⟩]

/-- An abort takes one job out of the registry, if it was there. -/
theorem mem_running_abort {aborted other : Int} :
    other ∈ (engine.abort aborted).2.running ↔ other ≠ aborted ∧ other ∈ engine.running := by
  rw [abort_eq]
  split
  · rw [mem_running_finish]
    exact and_congr_right fun _ => by rw [running, running, JobRegistry.running_cancel]
  · next unregistered =>
      have different (registered : other ∈ engine.running) : other ≠ aborted := by
        rintro rfl
        exact unregistered (JobRegistry.contains_eq_true_iff.mpr registered)
      have unchanged : other ∈ engine.running ↔ other ≠ aborted ∧ other ∈ engine.running :=
        ⟨fun registered => ⟨different registered, registered⟩, And.right⟩
      rcases requestAbort_cases unregistered with ⟨error, requested, -⟩ | ⟨jobs, requested, -⟩
      · rw [requested]
        exact unchanged
      · rw [requested]
        exact unchanged

namespace Orderly

/-- A start leaves the jobs in the registry that are there already. -/
theorem mem_running_start (orderly : engine.Orderly) (waits : id ∈ engine.running)
    (query : String) (range : TimeRange) : id ∈ (engine.start query range).2.running := by
  have isNotNew (job : NewJob) : id ≠ (engine.jobs.store.insert job).1 := by
    rintro rfl
    have isNew : engine.state? (engine.jobs.store.insert job).1 = none :=
      JobStore.state?_insert_fst engine.jobs.store job
    cases (orderly.runs waits).symm.trans isNew
  rcases start_cases engine query range with
    ⟨error, start_eq⟩ | ⟨job, error, -, start_eq⟩ | ⟨job, pipeline, -, start_eq⟩
  · rw [start_eq]
    exact waits
  · rw [start_eq, mem_running_finish]
    exact ⟨isNotNew job, waits⟩
  · have works : (engine.enroll job).jobs.outage .setState = none := orderly.works .setState
    have isRunning : (engine.enroll job).state? (engine.jobs.store.insert job).1 = some .running :=
      (state?_enroll engine job _).trans (if_pos rfl)
    obtain ⟨state, -, -, registered_iff⟩ := exists_state?_execute works isRunning pipeline
    rw [start_eq, registered_iff]
    exact ⟨fun same => absurd same (isNotNew job), mem_running_enroll.mpr (.inr waits)⟩

/-- A job that waits goes on waiting until the streams are closed, unless somebody stops it. -/
theorem waits_or_finished_perform (orderly : engine.Orderly) (waits : id ∈ engine.running)
    {operation : Operation} (notAbort : operation ≠ .abort id)
    (notShutdown : operation ≠ .shutdown) :
    operation ≠ .closeStreams ∧ id ∈ (engine.perform operation).running ∨
      operation = .closeStreams ∧ (engine.perform operation).state? id = some .finished := by
  cases operation with
  | start query range => exact .inl ⟨nofun, orderly.mem_running_start waits query range⟩
  | abort aborted =>
      refine .inl ⟨nofun, mem_running_abort.mpr ⟨?_, waits⟩⟩
      rintro rfl
      exact notAbort rfl
  | shutdown => exact absurd rfl notShutdown
  | closeStreams =>
      refine .inr ⟨rfl, ?_⟩
      rw [perform_closeStreams, closeStreams_eq]
      exact (orderly.state?_finishAll_running rfl .finished id).trans (if_pos waits)
  | addEvent event => exact .inl ⟨nofun, waits⟩
  | setConfig config => exact .inl ⟨nofun, waits⟩
  | keepOpen keepsOpen => exact .inl ⟨nofun, waits⟩

/-- Whatever follows, a job that has ended stays as it has ended. -/
theorem state?_performAll_of_ended (orderly : engine.Orderly) {state : JobState}
    (stored : engine.state? id = some state) (ended : state ≠ .running)
    (operations : List Operation) : (engine.performAll operations).state? id = some state := by
  obtain ⟨later, storedLater, settles⟩ := orderly.exists_settles_performAll operations stored
  rcases settles with rfl | ⟨wasRunning, -⟩
  · exact storedLater
  · exact absurd wasRunning ended

/-- A job that waits and that nobody stops is finished exactly if the streams have been closed. -/
theorem waits_or_finished_performAll (orderly : engine.Orderly) (waits : id ∈ engine.running)
    {operations : List Operation} (notAborted : .abort id ∉ operations)
    (notShutDown : .shutdown ∉ operations) :
    .closeStreams ∉ operations ∧ id ∈ (engine.performAll operations).running ∨
      .closeStreams ∈ operations ∧
        (engine.performAll operations).state? id = some .finished := by
  induction operations generalizing engine with
  | nil => exact .inl ⟨List.not_mem_nil, waits⟩
  | cons operation operations inductionHypothesis =>
      rw [List.mem_cons, not_or] at notAborted notShutDown
      have orderlyBehind := orderly.perform operation
      rcases orderly.waits_or_finished_perform waits (Ne.symm notAborted.1)
        (Ne.symm notShutDown.1) with ⟨notClosed, waitsStill⟩ | ⟨closes, isFinished⟩
      · rw [List.mem_cons, or_iff_right (Ne.symm notClosed)]
        exact inductionHypothesis orderlyBehind waitsStill notAborted.2 notShutDown.2
      · refine .inr ⟨closes ▸ List.mem_cons_self, ?_⟩
        exact orderlyBehind.state?_performAll_of_ended isFinished (by decide) operations

end Orderly

variable {query : String} {range : TimeRange} {pipeline : Pipeline} {settled : JobEngine}

/-- The state in which a start leaves its job, which is in the registry while it waits. -/
theorem Orderly.state?_start (orderly : engine.Orderly)
    (compiled : Pipeline.compile .builtin query range = .ok pipeline)
    (started : engine.start query range = (.ok id, settled)) :
    let emission := pipeline.run ⟨engine.events, engine.configs⟩ false
    let state : JobState := if emission.exhausted && engine.keepsOpen then .running
      else if emission.failures.isEmpty then .finished else .partialFailure
    settled.state? id = some state ∧ (state = .running → id ∈ settled.running) := by
  intro emission state
  obtain ⟨pipeline', compiled', -, accepts, rfl, rfl⟩ := start_eq_ok_iff.mp started
  obtain rfl := Except.ok.inj (compiled.symm.trans compiled')
  let job := newJob pipeline query range
  let newId := (engine.jobs.store.insert job).1
  have works : (engine.enroll job).jobs.outage .setState = none := orderly.works .setState
  have isRunning : (engine.enroll job).state? newId = some .running :=
    (state?_enroll engine job newId).trans (if_pos rfl)
  have state?_eq := state?_execute works isRunning pipeline
  refine ⟨state?_eq, fun waits => ?_⟩
  obtain ⟨state', -, state?_eq', registered_iff⟩ := exists_state?_execute works isRunning pipeline
  have same : state' = state :=
    Option.some.inj (((state?_eq' newId).trans (if_pos rfl)).symm.trans state?_eq)
  rw [registered_iff]
  exact ⟨fun _ => same.trans waits, mem_running_enroll.mpr (.inl rfl)⟩

/-- A query that begins with a search goes through pages of the stored events, and its result is
what they contribute after the steps behind the search.  What a page contributes is what the search
finds on it under the reading of the configuration that belongs to the page.  If a reading fails
that belongs to a page, that page and all behind it are missing, and exactly this failure is
recorded.  A job that nobody stops is therefore finished only if every page has been gone through;
one that has been cut short is a partial failure, whatever follows. -/
theorem results_that_are_cut_short_are_flagged (events : EventStore) (configs : ConfigSource)
    (jobs : JobStore) (keepsOpen : Bool) (before : List Operation) (query : String)
    (range : TimeRange) (pipeline : Pipeline) (step : SearchStep) (rest : List Step)
    (compiled : Pipeline.compile .builtin query range = .ok pipeline)
    (steps_eq : pipeline.steps = .search step :: rest) :
    let engine := (unused events configs { store := jobs } keepsOpen).performAll before
    let pages := engine.events.pages step.search step.range
    let emission := pipeline.run ⟨engine.events, engine.configs⟩ false
    step.IsPaging engine.events pages ∧
      (engine.configs.Readable pages.length →
        (∃ batches, step.Contributes engine.configs 0 pages batches ∧
            emission.batches = passAll rest batches) ∧
          emission.failures = []) ∧
      (∀ count reason, engine.configs.FailsAfter count reason → count < pages.length →
        (∃ batches, step.Contributes engine.configs 0 (pages.take count) batches ∧
            emission.batches = passAll rest batches) ∧
          emission.failures = [.ofReading searchName reason]) ∧
      ∀ id settled, engine.start query range = (.ok id, settled) →
        ∀ operations, .abort id ∉ operations → .shutdown ∉ operations →
          let state? := (settled.performAll operations).state? id
          (engine.configs.Readable pages.length →
              state? = some .finished ∨
                state? = some .running ∧ engine.keepsOpen = true ∧ .closeStreams ∉ operations) ∧
            (¬engine.configs.Readable pages.length → state? = some .partialFailure) := by
  intro engine pages emission
  refine ⟨step.isPaging_pages engine.events, ?_, ?_, ?_⟩
  · intro readable
    obtain ⟨contributes, failures_eq, -⟩ := run_of_readable compiled steps_eq readable
    exact ⟨contributes, failures_eq⟩
  · intro count reason failsAfter reached
    obtain ⟨contributes, failures_eq, -⟩ := run_of_failsAfter compiled steps_eq failsAfter reached
    exact ⟨contributes, failures_eq⟩
  · intro id settled started operations notAborted notShutDown state?
    have orderly : engine.Orderly :=
      (orderly_unused events configs jobs keepsOpen).performAll before
    have orderlyBehind : settled.Orderly := by
      have performed : engine.perform (.start query range) = settled := by
        rw [perform_start, started]
      rw [← performed]
      exact orderly.perform _
    obtain ⟨state?_eq, waits⟩ := orderly.state?_start compiled started
    constructor
    · intro readable
      obtain ⟨-, failures_eq, exhausted_eq⟩ := run_of_readable compiled steps_eq readable
      rw [failures_eq, exhausted_eq] at state?_eq waits
      cases opens : engine.keepsOpen with
      | true =>
          rw [opens] at waits
          rcases orderlyBehind.waits_or_finished_performAll (waits rfl) notAborted notShutDown with
            ⟨notClosed, waitsStill⟩ | ⟨-, isFinished⟩
          · exact .inr ⟨(orderlyBehind.performAll operations).runs waitsStill, rfl, notClosed⟩
          · exact .inl isFinished
      | false =>
          rw [opens] at state?_eq
          have isFinished : settled.state? id = some .finished := state?_eq
          exact .inl (orderlyBehind.state?_performAll_of_ended isFinished (by decide) operations)
    · intro unreadable
      obtain ⟨count, reason, reached, failsAfter⟩ :=
        (engine.configs.readable_or_failsAfter pages.length).resolve_left unreadable
      obtain ⟨-, failures_eq, exhausted_eq⟩ :=
        run_of_failsAfter compiled steps_eq failsAfter reached
      rw [failures_eq, exhausted_eq] at state?_eq
      have isPartial : settled.state? id = some .partialFailure := state?_eq
      exact orderlyBehind.state?_performAll_of_ended isPartial (by decide) operations

/-- Three pages of one event each, whose times the first two readings find under different names.
The third reading fails: the events of two pages come out, each with the time of its own reading,
and the job is a partial failure although its streams are closed later. -/
theorem third_page_is_missing_and_flagged :
    let type (timeField : String) : FileType :=
      { name := defaultTypeName, timeLayout := "", parser := .json defaultDelimiter timeField }
    let config (timeField : String) : LogConfig :=
      { files := [{ fileName := "s" }], fileTypes := .ofList [(defaultTypeName, type timeField)] }
    let event : NewEvent := ⟨"\x7b\"a\":\"1\",\"b\":\"2\"\x7d", .epoch, "h", "s"⟩
    let engine := unused { added := [event, event, event], pageSize := 1 }
      (.script (.ok (config "a")) [.ok (config "b"), .error "gone", .ok (config "a")]) {} true
    ∃ pipeline settled, Pipeline.compile .builtin "" {} = .ok pipeline ∧
      engine.start "" {} = (.ok 1, settled) ∧
      (pipeline.run ⟨engine.events, engine.configs⟩ false).events.map
          (fun found => (found.id, found.fields["_time"]?)) = [(3, some "1"), (2, some "2")] ∧
      (pipeline.run ⟨engine.events, engine.configs⟩ false).failures =
        [.ofReading searchName "gone"] ∧
      (settled.performAll [.closeStreams]).state? 1 = some .partialFailure := by
  intro type config event engine
  let step : SearchStep := { search := {}, range := {} }
  let pipeline : Pipeline := { steps := [.search step], types := [⟨.nothing, .events⟩] }
  have compiled : Pipeline.compile .builtin "" {} = .ok pipeline := by cbv
  have pages_eq : engine.events.pages step.search step.range =
      [[{ event with id := 3 }], [{ event with id := 2 }], [{ event with id := 1 }]] := by
    cbv
  have reached : 2 < (engine.events.pages step.search step.range).length := by
    rw [pages_eq]
    decide
  have failsAfter : engine.configs.FailsAfter 2 "gone" := by
    refine ⟨?_, rfl⟩
    intro index before
    rcases index with _ | _ | index
    · exact ⟨config "a", rfl⟩
    · exact ⟨config "b", rfl⟩
    · omega
  have flagged := results_that_are_cut_short_are_flagged engine.events engine.configs {} true [] ""
    {} pipeline step [] compiled rfl
  obtain ⟨⟨batches, contributes, batches_eq⟩, failures_eq⟩ :=
    flagged.2.2.1 2 "gone" failsAfter reached
  -- Each page is found under the time field of its own reading.
  have finds (timeField : String) (id : Int) :
      step.FindsOnPage (.ofConfig (config timeField)) [{ event with id }]
        [FileParser.apply ⟨.json, timeField⟩ { event with id }] :=
    .found ⟨by rfl, by rfl, ⟨.json, timeField⟩, by cbv, by rfl, rfl⟩ .nil
  have expected : step.Contributes engine.configs 0
      ((engine.events.pages step.search step.range).take 2)
      [{ events := [FileParser.apply ⟨.json, "a"⟩ { event with id := 3 }], rows := [] },
        { events := [FileParser.apply ⟨.json, "b"⟩ { event with id := 2 }], rows := [] }] := by
    rw [pages_eq]
    exact .batch rfl (finds "a" 3) (List.cons_ne_nil _ _)
      (.batch rfl (finds "b" 2) (List.cons_ne_nil _ _) (.ends 2))
  obtain rfl := contributes.unique expected
  obtain ⟨settled, started⟩ : ∃ settled, engine.start "" {} = (.ok 1, settled) :=
    ⟨_, start_eq_ok_iff.mpr ⟨pipeline, compiled, rfl, rfl, rfl, rfl⟩⟩
  have isPartial := (flagged.2.2.2 1 settled started [.closeStreams] (by simp) (by simp)).2
    (failsAfter.not_readable reached)
  refine ⟨pipeline, settled, compiled, started, ?_, failures_eq, isPartial⟩
  let shownFields (batches : List Batch) : List (Int × Option String) :=
    (batches.flatMap (·.events)).map fun found => (found.id, found.fields["_time"]?)
  have readings : shownFields
      [{ events := [FileParser.apply ⟨.json, "a"⟩ { event with id := 3 }], rows := [] },
        { events := [FileParser.apply ⟨.json, "b"⟩ { event with id := 2 }], rows := [] }] =
      [(3, some "1"), (2, some "2")] := by
    simp only [shownFields]
    cbv
  exact (congrArg shownFields batches_eq).trans readings

end JobEngine

end LogQuery
