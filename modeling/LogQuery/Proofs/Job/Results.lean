import LogQuery.Proofs.Job.Settling
import LogQuery.Proofs.Pipeline.Run

/-!
# What a job has when it has ended

If no request fails and the job is not stopped, it ends with exactly what its pipeline gives when it
is run by itself.  The order in which stored results are shown is then the order in which they came,
because the only steps that can begin a pipeline either emit events in the order of results or ask
for no order.
-/

namespace LogQuery

open LogQuery.Config LogQuery.Pipeline

namespace Deposit

/-- Rows come in the order of their numbers. -/
theorem pairwise_numberRows (first : Int) (rows : List Fields) :
    (numberRows first rows).Pairwise fun earlier later => earlier.number < later.number := by
  rw [List.pairwise_iff_getElem]
  intro earlier later _ _ before
  simp only [numberRows, List.getElem_mapIdx]
  omega

end Deposit

namespace JobRecord

variable {record : JobRecord}

/-- Rows that came in the order of their numbers are shown as they came. -/
theorem orderedRows_of_pairwise
    (ascending : record.rows.Pairwise fun earlier later => earlier.number < later.number) :
    record.orderedRows = record.rows :=
  List.mergeSort_of_pairwise (ascending.imp fun before => decide_eq_true (Int.le_of_lt before))

theorem orderedRows_eq {refs : List EventRef} {rows maps : List Fields}
    (gathers : record.Gathers refs rows maps) :
    record.orderedRows = rows.mapIdx fun index values => ⟨index, values⟩ := by
  rw [orderedRows_of_pairwise, gathers.rows_eq]
  · refine List.mapIdx_eq_mapIdx_iff.mpr fun index _ => ?_
    rw [Int.zero_add]
  · rw [gathers.rows_eq]
    exact Deposit.pairwise_numberRows 0 rows

/-- References that came in the order which the job gives to its results are shown as they came. -/
theorem orderedResults_eq (inOrder : record.job.sortMode = .newestFirst →
      record.results.Pairwise fun first second => first.mayPrecede second = true) :
    record.orderedResults = record.results := by
  unfold orderedResults
  split
  · next newestFirst => exact EventRef.newestFirst_of_pairwise (inOrder newestFirst)
  · rfl

end JobRecord

namespace JobStore

variable {store : JobStore} {id : Int} {record : JobRecord}

theorem results_eq_window (found : store.record? id = some record) (skip : Nat)
    (take? : Option Nat) :
    store.results id skip take? = .ok (window skip take? record.orderedResults) := by
  unfold results
  rw [record_eq_ok_iff.mpr found]
  rfl

theorem results_eq_ok (found : store.record? id = some record) :
    store.results id 0 none = .ok record.orderedResults :=
  results_eq_window found 0 none

theorem rows_eq_window (found : store.record? id = some record) (skip : Nat)
    (take? : Option Nat) :
    store.rows id skip take? = .ok (window skip take? record.orderedRows) := by
  unfold rows
  rw [record_eq_ok_iff.mpr found]
  rfl

theorem rows_eq_ok (found : store.record? id = some record) :
    store.rows id 0 none = .ok record.orderedRows :=
  rows_eq_window found 0 none

theorem fieldValues_eq_ok (found : store.record? id = some record) (field : String) :
    store.fieldValues id field = .ok (record.histogram.valuesOf field) := by
  unfold fieldValues
  rw [record_eq_ok_iff.mpr found]
  rfl

theorem matchedEvents_eq_ok (found : store.record? id = some record) :
    store.matchedEvents id = .ok record.matchedEvents := by
  unfold matchedEvents
  rw [record_eq_ok_iff.mpr found]
  rfl

theorem get_eq_ok (found : store.record? id = some record) :
    store.get id = .ok { record.job with id, state := record.state } := by
  unfold get
  rw [record_eq_ok_iff.mpr found]
  rfl

end JobStore

namespace Pipeline.Emission

variable {emission : Emission} {outputType : PipeType}

theorem flatMap_storedRefs (notTable : outputType ≠ .table) :
    emission.batches.flatMap (·.storedRefs outputType) =
      emission.events.map fun event => event.ref := by
  unfold Batch.storedRefs events
  rw [List.map_flatMap]
  simp only [if_neg notTable]

theorem flatMap_storedRows (isTable : outputType = .table) :
    emission.batches.flatMap (·.storedRows outputType) = emission.rows := by
  unfold Batch.storedRows rows
  simp only [if_pos isTable]

theorem flatMap_countedFields :
    emission.batches.flatMap (·.countedFields outputType) =
      if outputType = .table then emission.rows
      else emission.events.map fun event => event.fields := by
  unfold Batch.countedFields rows events
  split
  · rfl
  · rw [List.map_flatMap]

end Pipeline.Emission

namespace Pipeline

variable {query : String} {range : TimeRange} {pipeline : Pipeline}

/-- Whenever results are sorted, the pipeline has emitted them in that order. -/
theorem pairwise_events_run (compiled : compile .builtin query range = .ok pipeline)
    (sources : Sources) (cancelled : Bool) (newestFirst : pipeline.sortMode = .newestFirst) :
    (pipeline.run sources cancelled).events.Pairwise fun first second =>
      first.ref.Precedes second.ref := by
  obtain ⟨first, rest, steps_eq, begins, goOn⟩ := exists_steps_of_compile compiled
  have emitted := map_toEvent_events_run_sublist steps_eq sources cancelled
  cases begins with
  | search step =>
      have ordered := (sources.events.pairwise_candidates step.search step.range).sublist emitted
      rwa [List.pairwise_map] at ordered
  | surrounding step =>
      rw [sortMode_eq steps_eq goOn] at newestFirst
      cases newestFirst

/-- A pipeline emits no event twice. -/
theorem nodup_map_id_events_run (compiled : compile .builtin query range = .ok pipeline)
    (sources : Sources) (cancelled : Bool) :
    ((pipeline.run sources cancelled).events.map (·.id)).Nodup := by
  obtain ⟨first, rest, steps_eq, -, -⟩ := exists_steps_of_compile compiled
  have emitted := map_toEvent_events_run_sublist steps_eq sources cancelled
  have numbers := (first.nodup_map_id_reads sources.events).sublist (emitted.map (·.id))
  rwa [List.map_map] at numbers

end Pipeline

namespace JobEngine

variable {engine : JobEngine} {query : String} {range : TimeRange} {pipeline : Pipeline}

/-- A job starts exactly if its query compiles and it can be recorded and registered. -/
theorem start_eq_ok_iff {id : Int} {settled : JobEngine} :
    engine.start query range = (.ok id, settled) ↔
      ∃ pipeline, Pipeline.compile .builtin query range = .ok pipeline ∧
        engine.jobs.outage .insert = none ∧ engine.registry.hasStopped = false ∧
        id = (engine.jobs.store.insert (newJob pipeline query range)).1 ∧
        settled = (engine.enroll (newJob pipeline query range)).execute id pipeline := by
  have faces : engine.facing (Outages.always engine.jobs.outage 0) = engine :=
    facing_of_outage_eq rfl
  have prepares := engine.prepares query range
  unfold start startThrough
  rw [faces]
  generalize engine.prepare query range = prepared at prepares
  obtain ⟨answer, left⟩ := prepared
  constructor
  · intro started
    cases prepares with
    | misread compiled => cases started
    | unrecorded compiled fails => cases started
    | refused compiled job_eq records stopped => cases started
    | launched compiled job_eq records accepts =>
        subst job_eq
        cases started
        exact ⟨_, compiled, records, accepts, rfl, rfl⟩
  · rintro ⟨pipeline, compiled, records, accepts, rfl, rfl⟩
    cases prepares with
    | misread notCompiled => cases compiled.symm.trans notCompiled
    | unrecorded _ fails => cases records.symm.trans fails
    | refused _ _ _ stopped => cases accepts.symm.trans stopped
    | launched compiledToo job_eq _ _ =>
        cases compiled.symm.trans compiledToo
        subst job_eq
        rfl

theorem record?_enroll (job : NewJob) :
    (engine.enroll job).jobs.store.record? (engine.jobs.store.insert job).1 = some { job } :=
  JobStore.record?_insert_self engine.jobs.store job

/-- A job that is not hindered ends with the record of all that its pipeline gives. -/
theorem exists_record?_execute (engine : JobEngine) (pipeline : Pipeline) {id : Int} {job : NewJob}
    (works : ∀ request, engine.jobs.outage request = none) (closes : engine.keepsOpen = false)
    (found : engine.jobs.store.record? id = some { job }) :
    let emission := pipeline.run ⟨engine.events, engine.configs⟩ false
    ∃ record, (engine.execute id pipeline).jobs.store.record? id = some record ∧
      record.job = job ∧
      record.state = (if emission.failures.isEmpty then .finished else .partialFailure) ∧
      record.Gathers (emission.batches.flatMap (·.storedRefs pipeline.outputType))
        (emission.batches.flatMap (·.storedRows pipeline.outputType))
        (emission.batches.flatMap (·.countedFields pipeline.outputType)) := by
  intro emission
  have started : Deposit.Holds { jobs := engine.jobs } id job [] [] [] :=
    ⟨works, rfl, { job }, found, rfl, rfl, rfl, rfl, Histogram.counts_empty⟩
  have fed := started.foldl_store pipeline.outputType emission.batches
  simp only [List.nil_append] at fed
  obtain ⟨record, held, ofJob, running, gathers⟩ := fed.gathered
  let state : JobState := if emission.failures.isEmpty then .finished else .partialFailure
  obtain ⟨ended, succeeds, -, stored⟩ := JobConnection.apply_change_of_running
    (JobRecord.setState state) (fed.works .setState) held running
  refine ⟨{ record with state }, ?_, ofJob, rfl, gathers.results_eq, gathers.rows_eq,
    gathers.counts⟩
  have setState_eq : JobConnection.setState _ id state = .ok ended := succeeds
  rw [execute_eq]
  dsimp only
  rw [if_neg (by simp [closes]), finish, setState_eq]
  exact stored

/-- A job that is neither hindered nor stopped stores what its pipeline gives when it is run by
itself: references to all events in the order in which they are emitted, or all rows with numbers
from zero on; the counts of all values among them; and a final state that tells whether a step has
failed. -/
theorem start_stores_what_the_pipeline_gives
    (compiled : Pipeline.compile .builtin query range = .ok pipeline)
    (works : ∀ request, engine.jobs.outage request = none) (closes : engine.keepsOpen = false)
    (accepts : engine.registry.hasStopped = false) :
    let emission := pipeline.run ⟨engine.events, engine.configs⟩ false
    let given := if pipeline.outputType = .table then emission.rows
      else emission.events.map fun event => event.fields
    ∃ id settled, engine.start query range = (.ok id, settled) ∧
      (pipeline.outputType = .events ∧
          settled.jobs.store.results id 0 none =
            .ok (emission.events.map fun event => event.ref) ∧
          (emission.events.map (·.id)).Nodup ∨
        pipeline.outputType = .table ∧
          settled.jobs.store.rows id 0 none =
            .ok (emission.rows.mapIdx fun index values => ⟨index, values⟩)) ∧
      (∀ field, ∃ values, settled.jobs.store.fieldValues id field = .ok values ∧
        ∀ value,
          let occurrences := given.countP fun fields => fields[field]? = some value
          values[value]? = if occurrences = 0 then none else some (occurrences : Int)) ∧
      (settled.jobs.store.get id).map (·.state) =
        .ok (if emission.failures = [] then .finished else .partialFailure) := by
  intro emission given
  obtain ⟨record, found, ofJob, state_eq, gathers⟩ := exists_record?_execute
    (engine.enroll (newJob pipeline query range)) pipeline works closes (record?_enroll _)
  have counts : record.histogram.Counts given := by
    have counted := gathers.counts
    rwa [Pipeline.Emission.flatMap_countedFields] at counted
  refine ⟨_, _, start_eq_ok_iff.mpr ⟨pipeline, compiled, works .insert, accepts, rfl, rfl⟩, ?_, ?_,
    ?_⟩
  · cases type_eq : pipeline.outputType with
    | nothing => exact absurd type_eq (Pipeline.outputType_ne_nothing compiled)
    | events =>
        have refs_eq : record.results = emission.events.map fun event => event.ref := by
          rw [gathers.results_eq]
          exact Pipeline.Emission.flatMap_storedRefs (by rw [type_eq]; decide)
        refine .inl ⟨rfl, ?_, Pipeline.nodup_map_id_events_run compiled _ _⟩
        rw [JobStore.results_eq_ok found, JobRecord.orderedResults_eq, refs_eq]
        intro newestFirst
        rw [ofJob] at newestFirst
        have ordered := Pipeline.pairwise_events_run compiled ⟨engine.events, engine.configs⟩ false
          newestFirst
        rw [refs_eq, List.pairwise_map]
        exact ordered.imp fun precedes => (EventRef.precedes_iff.mp precedes).1
    | table =>
        refine .inr ⟨rfl, ?_⟩
        rw [JobStore.rows_eq_ok found, JobRecord.orderedRows_eq gathers]
        exact congrArg (fun rows => Except.ok (List.mapIdx _ rows))
          (Pipeline.Emission.flatMap_storedRows type_eq)
  · intro field
    refine ⟨_, JobStore.fieldValues_eq_ok found field, fun value => ?_⟩
    exact counts.getElem?_valuesOf field value
  · rw [JobStore.get_eq_ok found]
    refine congrArg Except.ok ?_
    rw [state_eq]
    simp only [List.isEmpty_iff]
    rfl

/-- Two events of one time on two pages become two rows, the one with the greater number first. -/
theorem start_stores_the_rows_of_two_pages :
    let type : FileType :=
      { name := defaultTypeName, timeLayout := "", parser := .json defaultDelimiter "_time" }
    let engine : JobEngine :=
      { events := { added := [⟨"", .epoch, "a", "s"⟩, ⟨"", .epoch, "b", "s"⟩], pageSize := 1 }
        configs := .constant
          { files := [{ fileName := "s" }], fileTypes := .ofList [(type.name, type)] } }
    ∃ id settled rows, engine.start "| table host" {} = (.ok id, settled) ∧
      settled.jobs.store.rows id 0 none = .ok rows ∧
      rows.map (fun row => (row.number, row.values.toList)) =
        [(0, [("host", "b")]), (1, [("host", "a")])] := by
  intro type engine
  have evaluated : (Pipeline.compile .builtin "| table host" {}).map (fun pipeline =>
      (pipeline.outputType,
        (pipeline.run ⟨engine.events, engine.configs⟩ false).rows.map (·.toList))) =
      .ok (.table, [[("host", "b")], [("host", "a")]]) := by
    cbv
  obtain ⟨pipeline, compiled, found⟩ := map_eq_ok_iff.mp evaluated
  obtain ⟨type_eq, rows_eq⟩ := Prod.mk.inj found
  have works (request : StoreRequest) : engine.jobs.outage request = none := rfl
  obtain ⟨id, settled, started, stored, -⟩ :=
    start_stores_what_the_pipeline_gives compiled works rfl rfl
  rcases stored with ⟨isEvents, -⟩ | ⟨-, stored⟩
  · rw [type_eq] at isEvents
    cases isEvents
  · obtain ⟨newer, others, rows_eq, newer_eq, others_eq⟩ := List.map_eq_cons_iff.mp rows_eq
    obtain ⟨older, none, rfl, older_eq, none_eq⟩ := List.map_eq_cons_iff.mp others_eq
    obtain rfl := List.map_eq_nil_iff.mp none_eq
    rw [rows_eq] at stored
    refine ⟨id, settled, [⟨0, newer⟩, ⟨1, older⟩], started, stored, ?_⟩
    simp only [List.map_cons, List.map_nil, newer_eq, older_eq]

end JobEngine

end LogQuery
