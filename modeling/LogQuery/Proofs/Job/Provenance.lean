import LogQuery.Proofs.Job.History

/-!
# Where stored results come from

Requests may fail while a job runs, and then some of its results are not stored, or stored but not
counted.  Whatever fails, what a job has stored are some of the batches that its pipeline emits,
each of them as a whole and with the row numbers that it has among all of them, and what it has
counted are some of those that it has stored.  `Deposit.Salvages` is what each batch preserves;
later operations leave the results of a job alone.
-/

namespace LogQuery

open LogQuery.Config LogQuery.Pipeline

/-! ## What becomes of a batch -/

/-- What may become of the results of a batch. -/
inductive BatchFate where
  | lost
  /-- They are stored, but their values are not counted. -/
  | stored
  | counted

namespace JobRecord

/-- The record of a job behind a batch whose rows are numbered from `nextRow` on. -/
def receive (outputType : PipeType) (nextRow : Int) (batch : Batch) (record : JobRecord) :
    BatchFate → JobRecord
  | .lost => record
  | .stored =>
      { record with
        results := record.results ++ batch.storedRefs outputType
        rows := record.rows ++ Deposit.numberRows nextRow (batch.storedRows outputType) }
  | .counted =>
      { record with
        results := record.results ++ batch.storedRefs outputType
        rows := record.rows ++ Deposit.numberRows nextRow (batch.storedRows outputType)
        histogram := record.histogram.addAll
          (Histogram.ofFields (batch.countedFields outputType)).toCounts }

/-- Sorting shows no other references than those that are stored. -/
theorem mem_orderedResults {record : JobRecord} {ref : EventRef} :
    ref ∈ record.orderedResults ↔ ref ∈ record.results := by
  unfold orderedResults
  split
  · exact (List.mergeSort_perm _ _).mem_iff
  · rfl

end JobRecord

/-- The record of one job is updated, and all others stay. -/
def JobStore.Updates (store : JobStore) (id : Int) (update : JobRecord → JobRecord)
    (changed : JobStore) : Prop :=
  ∀ other, changed.record? other =
    if other = id then (store.record? id).map update else store.record? other

namespace JobStore.Updates

variable {first second third : JobStore} {id : Int} {update further : JobRecord → JobRecord}

theorem refl (store : JobStore) (id : Int) : store.Updates id (fun record => record) store := by
  intro other
  split
  · next same => rw [same, Option.map_id']
  · rfl

theorem trans (before : first.Updates id update second) (behind : second.Updates id further third) :
    first.Updates id (fun record => further (update record)) third := by
  intro other
  rw [behind other, before id, before other, if_pos rfl, Option.map_map]
  split
  · rfl
  · rfl

end JobStore.Updates

namespace Deposit

variable (deposit : Deposit) (id : Int)

theorem nextRow_storeCounts (maps : List Fields) :
    (deposit.storeCounts id maps).nextRow = deposit.nextRow := by
  unfold storeCounts
  split
  · rfl
  · rfl

/-- What has been stored of a batch may be counted as well. -/
theorem exists_fate_storeCounts {store : JobStore} {outputType : PipeType} {nextRow : Int}
    {batch : Batch}
    (stored : store.Updates id (JobRecord.receive outputType nextRow batch · .stored)
      deposit.jobs.store) :
    ∃ fate, store.Updates id (JobRecord.receive outputType nextRow batch · fate)
      (deposit.storeCounts id (batch.countedFields outputType)).jobs.store := by
  unfold storeCounts
  split
  · next jobs changed =>
      exact ⟨.counted, stored.trans (JobConnection.record?_of_apply_change changed)⟩
  · exact ⟨.stored, stored⟩

theorem exists_fate_storeEvents {outputType : PipeType} (notTable : outputType ≠ .table)
    (batch : Batch) :
    (deposit.storeEvents id batch.events).nextRow = deposit.nextRow ∧
      ∃ fate, deposit.jobs.store.Updates id
        (JobRecord.receive outputType deposit.nextRow batch · fate)
        (deposit.storeEvents id batch.events).jobs.store := by
  have refs_eq : batch.storedRefs outputType = batch.events.map (·.ref) := if_neg notTable
  have rows_eq : batch.storedRows outputType = [] := if_neg notTable
  have fields_eq : batch.countedFields outputType = batch.events.map (·.fields) := if_neg notTable
  unfold storeEvents
  split
  · exact ⟨rfl, .lost, .refl _ id⟩
  · split
    · next jobs changed =>
        refine ⟨nextRow_storeCounts _ id _, ?_⟩
        rw [← fields_eq]
        refine exists_fate_storeCounts { deposit with jobs } id ?_
        simp only [JobRecord.receive, refs_eq, rows_eq, numberRows, List.mapIdx_nil,
          List.append_nil]
        exact JobConnection.record?_of_apply_change changed
    · exact ⟨rfl, .lost, .refl _ id⟩

theorem exists_fate_storeRows {outputType : PipeType} (isTable : outputType = .table)
    (batch : Batch) :
    (deposit.storeRows id batch.rows).nextRow = deposit.nextRow + batch.rows.length ∧
      ∃ fate, deposit.jobs.store.Updates id
        (JobRecord.receive outputType deposit.nextRow batch · fate)
        (deposit.storeRows id batch.rows).jobs.store := by
  have refs_eq : batch.storedRefs outputType = [] := if_pos isTable
  have rows_eq : batch.storedRows outputType = batch.rows := if_pos isTable
  have fields_eq : batch.countedFields outputType = batch.rows := if_pos isTable
  unfold storeRows
  dsimp only
  split
  · next isEmpty =>
      rw [List.isEmpty_iff.mp isEmpty]
      exact ⟨(Int.add_zero _).symm, .lost, .refl _ id⟩
  · split
    · next jobs changed =>
        refine ⟨nextRow_storeCounts _ id _, ?_⟩
        rw [← fields_eq]
        refine exists_fate_storeCounts ⟨jobs, _⟩ id ?_
        simp only [JobRecord.receive, refs_eq, rows_eq, List.append_nil]
        exact JobConnection.record?_of_apply_change changed
    · exact ⟨rfl, .lost, .refl _ id⟩

/-- A batch has one of three fates, and its rows use up their numbers in any case. -/
theorem exists_fate_store (outputType : PipeType) (batch : Batch) :
    (deposit.store outputType id batch).nextRow =
        deposit.nextRow + (batch.storedRows outputType).length ∧
      ∃ fate, deposit.jobs.store.Updates id
        (JobRecord.receive outputType deposit.nextRow batch · fate)
        (deposit.store outputType id batch).jobs.store := by
  unfold Deposit.store Batch.storedRows
  split
  · next isTable => exact exists_fate_storeRows deposit id isTable batch
  · next notTable =>
      rw [List.length_nil, Int.natCast_zero, Int.add_zero]
      exact exists_fate_storeEvents deposit id notTable batch

end Deposit

theorem Pipeline.Batch.exists_event_of_mem_storedRefs {outputType : PipeType} {batch : Batch}
    {ref : EventRef} (stored : ref ∈ batch.storedRefs outputType) :
    ∃ event ∈ batch.events, event.ref = ref := by
  unfold storedRefs at stored
  split at stored
  · cases stored
  · exact List.mem_map.mp stored

/-! ## What is left of a run -/

/-- What a job has stored of some batches are the batches that are kept, and the values of those
that are counted are in its histogram. -/
structure JobRecord.Salvages (record : JobRecord) (outputType : PipeType)
    (batches kept counted : List Batch) : Prop where
  kept_sublist : kept.Sublist batches
  counted_sublist : counted.Sublist kept
  results_eq : record.results = kept.flatMap (·.storedRefs outputType)
  values_eq : record.rows.map (·.values) = kept.flatMap (·.storedRows outputType)
  /-- Every row has the number that it has among the rows of all batches. -/
  rows_sublist :
    record.rows.Sublist (Deposit.numberRows 0 (batches.flatMap (·.storedRows outputType)))
  counts : record.histogram.Counts (counted.flatMap (·.countedFields outputType))

namespace JobRecord.Salvages

variable {record : JobRecord} {outputType : PipeType} {batches kept counted : List Batch}

theorem fresh (job : NewJob) (outputType : PipeType) :
    JobRecord.Salvages { job } outputType [] [] [] where
  kept_sublist := .slnil
  counted_sublist := .slnil
  results_eq := rfl
  values_eq := rfl
  rows_sublist := .slnil
  counts := Histogram.counts_empty

theorem withState (salvages : record.Salvages outputType batches kept counted) (state : JobState) :
    JobRecord.Salvages { record with state } outputType batches kept counted :=
  ⟨salvages.kept_sublist, salvages.counted_sublist, salvages.results_eq, salvages.values_eq,
    salvages.rows_sublist, salvages.counts⟩

/-- Whatever becomes of one more batch. -/
theorem receive (salvages : record.Salvages outputType batches kept counted) {nextRow : Int}
    (nextRow_eq : nextRow = (batches.flatMap (·.storedRows outputType)).length) (batch : Batch)
    (fate : BatchFate) :
    ∃ kept counted, (record.receive outputType nextRow batch fate).Salvages outputType
      (batches ++ [batch]) kept counted := by
  have rows_eq : Deposit.numberRows 0 ((batches ++ [batch]).flatMap (·.storedRows outputType)) =
      Deposit.numberRows 0 (batches.flatMap (·.storedRows outputType)) ++
        Deposit.numberRows nextRow (batch.storedRows outputType) := by
    rw [List.flatMap_append, List.flatMap_singleton, Deposit.numberRows_append, Int.zero_add,
      nextRow_eq]
  have kept_sublist : (kept ++ [batch]).Sublist (batches ++ [batch]) :=
    salvages.kept_sublist.append_right [batch]
  have results_eq : record.results ++ batch.storedRefs outputType =
      (kept ++ [batch]).flatMap (·.storedRefs outputType) := by
    rw [salvages.results_eq, List.flatMap_append, List.flatMap_singleton]
  have values_eq :
      (record.rows ++ Deposit.numberRows nextRow (batch.storedRows outputType)).map (·.values) =
        (kept ++ [batch]).flatMap (·.storedRows outputType) := by
    rw [List.map_append, salvages.values_eq, Deposit.map_values_numberRows, List.flatMap_append,
      List.flatMap_singleton]
  have rows_sublist :
      (record.rows ++ Deposit.numberRows nextRow (batch.storedRows outputType)).Sublist
        (Deposit.numberRows 0 ((batches ++ [batch]).flatMap (·.storedRows outputType))) := by
    rw [rows_eq]
    exact salvages.rows_sublist.append_right _
  cases fate with
  | lost =>
      refine ⟨kept, counted, salvages.kept_sublist.trans (List.sublist_append_left _ _),
        salvages.counted_sublist, salvages.results_eq, salvages.values_eq, ?_, salvages.counts⟩
      rw [rows_eq]
      exact salvages.rows_sublist.trans (List.sublist_append_left _ _)
  | stored =>
      exact ⟨kept ++ [batch], counted, kept_sublist,
        salvages.counted_sublist.trans (List.sublist_append_left _ _), results_eq, values_eq,
        rows_sublist, salvages.counts⟩
  | counted =>
      refine ⟨kept ++ [batch], counted ++ [batch], kept_sublist,
        salvages.counted_sublist.append_right [batch], results_eq, values_eq, rows_sublist, ?_⟩
      rw [List.flatMap_append, List.flatMap_singleton]
      exact salvages.counts.addAll _

theorem pairwise_rows (salvages : record.Salvages outputType batches kept counted) :
    record.rows.Pairwise fun earlier later => earlier.number < later.number :=
  (Deposit.pairwise_numberRows 0 _).sublist salvages.rows_sublist

/-- Only rows that are emitted are stored. -/
theorem rows_sublist_rows {emission : Emission}
    (salvages : record.Salvages outputType emission.batches kept counted) :
    record.rows.Sublist (Deposit.numberRows 0 emission.rows) := by
  by_cases isTable : outputType = .table
  · rw [← Emission.flatMap_storedRows isTable]
    exact salvages.rows_sublist
  · have noRows : record.rows = [] := by
      rw [← List.map_eq_nil_iff, salvages.values_eq]
      exact List.flatMap_eq_nil_iff.mpr fun batch _ => if_neg isTable
    rw [noRows]
    exact List.nil_sublist _

/-- Everything that is counted is stored. -/
theorem length_counted_le (salvages : record.Salvages record.job.outputType batches kept counted) :
    (counted.flatMap (·.countedFields record.job.outputType)).length ≤ record.matchedEvents := by
  have counted_le :=
    (salvages.counted_sublist.flatMap (·.countedFields record.job.outputType)).length_le
  have matched_eq :
      record.matchedEvents = (kept.flatMap (·.countedFields record.job.outputType)).length := by
    unfold matchedEvents
    split
    · next isTable =>
        rw [← List.length_map, salvages.values_eq]
        simp only [Batch.storedRows, Batch.countedFields, if_pos isTable]
    · next notTable =>
        rw [salvages.results_eq]
        simp only [Batch.storedRefs, Batch.countedFields, if_neg notTable, List.length_flatMap,
          List.length_map]
  omega

end JobRecord.Salvages

namespace Deposit

/-- What a job has of some batches, and that they have used up their row numbers. -/
structure Salvages (deposit : Deposit) (id : Int) (job : NewJob) (batches : List Batch) :
    Prop where
  nextRow_eq : deposit.nextRow = (batches.flatMap (·.storedRows job.outputType)).length
  salvaged : ∃ record kept counted, deposit.jobs.store.record? id = some record ∧
    record.job = job ∧ record.Salvages job.outputType batches kept counted

variable {deposit : Deposit} {id : Int} {job : NewJob} {batches : List Batch}

/-- What storing one batch preserves. -/
theorem Salvages.store (salvages : deposit.Salvages id job batches) (batch : Batch) :
    (deposit.store job.outputType id batch).Salvages id job (batches ++ [batch]) := by
  obtain ⟨nextRow_eq, fate, updates⟩ := exists_fate_store deposit id job.outputType batch
  obtain ⟨record, kept, counted, found, ofJob, holds⟩ := salvages.salvaged
  constructor
  · rw [nextRow_eq, salvages.nextRow_eq, List.flatMap_append, List.flatMap_singleton,
      List.length_append, Int.natCast_add]
  · obtain ⟨kept, counted, holdsStill⟩ := holds.receive salvages.nextRow_eq batch fate
    refine ⟨_, kept, counted, ?_, ?_, holdsStill⟩
    · rw [updates id, if_pos rfl, found]
      rfl
    · cases fate with
      | lost | stored | counted => exact ofJob

/-- What storing batches preserves, whatever fails. -/
theorem Salvages.storeThrough (salvages : deposit.Salvages id job batches) (outages : Outages)
    (more : List Batch) :
    (deposit.storeThrough job.outputType id outages more).Salvages id job (batches ++ more) := by
  -- Each batch meets the outage of its own moment, which does not touch what is stored already.
  induction more generalizing deposit outages batches with
  | nil => rwa [List.append_nil]
  | cons batch more inductionHypothesis =>
      have facing : (deposit.facing (outages 0)).Salvages id job batches :=
        ⟨salvages.nextRow_eq, salvages.salvaged⟩
      have stored := inductionHypothesis (facing.store batch) (outages.behind 1)
      rwa [List.append_assoc] at stored

/-- The records of other jobs stay. -/
theorem record?_storeThrough (deposit : Deposit) (outputType : PipeType) (outages : Outages)
    (batches : List Batch) {other : Int} (isOther : other ≠ id) :
    (deposit.storeThrough outputType id outages batches).jobs.store.record? other =
      deposit.jobs.store.record? other := by
  induction batches generalizing deposit outages with
  | nil => rfl
  | cons batch batches inductionHypothesis =>
      obtain ⟨-, fate, updates⟩ :=
        exists_fate_store (deposit.facing (outages 0)) id outputType batch
      refine (inductionHypothesis _ (outages.behind 1)).trans ?_
      exact (updates other).trans (if_neg isOther)

end Deposit

/-! ## What later operations leave -/

namespace JobStore

/-- The results of a job, if it is stored, are still there; its state may have changed. -/
def KeepsResults (before behind : JobStore) (id : Int) : Prop :=
  ∀ record, before.record? id = some record →
    ∃ state, behind.record? id = some { record with state }

variable {first second third : JobStore} {id : Int}

theorem KeepsResults.of_eq (same : second.record? id = first.record? id) :
    first.KeepsResults second id :=
  fun record found => ⟨record.state, same.trans found⟩

theorem KeepsResults.trans (before : first.KeepsResults second id)
    (behind : second.KeepsResults third id) : first.KeepsResults third id := by
  intro record found
  obtain ⟨state, foundBetween⟩ := before record found
  obtain ⟨last, foundBehind⟩ := behind _ foundBetween
  exact ⟨last, foundBehind⟩

end JobStore

namespace JobEngine

variable {engine : JobEngine} {id : Int}

theorem keepsResults_finish (engine : JobEngine) (finished : Int) (state : JobState) :
    engine.jobs.store.KeepsResults (engine.finish finished state).jobs.store id := by
  intro record found
  rw [record?_finish]
  split
  · rw [found]
    exact ⟨state, rfl⟩
  · exact ⟨record.state, found⟩

theorem keepsResults_finishAllThrough (engine : JobEngine) (outages : Outages) (ids : List Int)
    (state : JobState) :
    engine.jobs.store.KeepsResults (engine.finishAllThrough outages state ids).jobs.store id := by
  induction ids generalizing engine outages with
  | nil => exact .of_eq rfl
  | cons finished ids inductionHypothesis =>
      exact (keepsResults_finish (engine.facing (outages 0)) finished state).trans
        (inductionHypothesis _ (outages.behind 1))

/-- The end of a run leaves all results. -/
theorem keepsResults_of_executeThrough (engine : JobEngine) (outages : Outages) (executed : Int)
    (pipeline : Pipeline) :
    (Deposit.storeThrough pipeline.outputType executed outages { jobs := engine.jobs }
        (pipeline.run ⟨engine.events, engine.configs⟩ false).batches).jobs.store.KeepsResults
      (engine.executeThrough outages executed pipeline).jobs.store id := by
  let emission := pipeline.run ⟨engine.events, engine.configs⟩ false
  let deposit := Deposit.storeThrough pipeline.outputType executed outages { jobs := engine.jobs }
    emission.batches
  let fed : JobEngine := { engine with jobs := deposit.jobs, configs := emission.configs }
  rw [executeThrough_eq]
  dsimp only
  split
  · exact .of_eq rfl
  · exact keepsResults_finish (fed.facing (outages emission.batches.length)) executed _

theorem keepsResults_abort (engine : JobEngine) (aborted : Int) :
    engine.jobs.store.KeepsResults (engine.abort aborted).2.jobs.store id := by
  rcases jobs_abort engine aborted with jobs_eq | jobs_eq
  · rw [jobs_eq]
    exact .of_eq rfl
  · rw [jobs_eq]
    exact keepsResults_finish engine aborted .aborted

theorem keepsResults_startThrough (engine : JobEngine) (outages : Outages) (query : String)
    (range : TimeRange) :
    engine.jobs.store.KeepsResults (engine.startThrough outages query range).2.jobs.store id := by
  rcases startThrough_cases engine outages query range with ⟨error, start_eq⟩ |
    ⟨pipeline, -, ⟨-, start_eq⟩ | ⟨-, start_eq⟩⟩
  · rw [start_eq]
    exact .of_eq rfl
  · intro record found
    rw [start_eq]
    exact keepsResults_finish _ _ .aborted record (JobStore.record?_insert_of_found _ found)
  · intro record found
    let job := newJob pipeline query range
    have isOther : id ≠ (engine.jobs.store.insert job).1 := by
      rintro rfl
      rw [JobStore.record?_insert_fst] at found
      cases found
    rw [start_eq]
    refine keepsResults_of_executeThrough _ _ _ pipeline record ?_
    rw [Deposit.record?_storeThrough _ _ _ _ isOther]
    exact JobStore.record?_insert_of_found job found

/-- The results of a job are not touched by any later operation. -/
theorem keepsResults_performThrough (engine : JobEngine) (outages : Outages)
    (operation : Operation) :
    engine.jobs.store.KeepsResults (engine.performThrough outages operation).jobs.store id := by
  cases operation with
  | start query range => exact keepsResults_startThrough engine outages query range
  | abort aborted => exact keepsResults_abort (engine.facing (outages 0)) aborted
  | shutdown =>
      exact keepsResults_finishAllThrough engine.requestShutdown outages engine.running .aborted
  | closeStreams => exact keepsResults_finishAllThrough engine outages engine.running .finished
  | addEvent event => exact .of_eq rfl
  | setConfig config => exact .of_eq rfl
  | keepOpen keepsOpen => exact .of_eq rfl

theorem keepsResults_performAllThrough (engine : JobEngine) (history : List (Operation × Outages)) :
    engine.jobs.store.KeepsResults (engine.performAllThrough history).jobs.store id := by
  induction history generalizing engine with
  | nil => exact .of_eq rfl
  | cons event history inductionHypothesis =>
      exact (keepsResults_performThrough engine event.2 event.1).trans (inductionHypothesis _)

variable {outages : Outages} {query : String} {range : TimeRange} {settled : JobEngine}

/-- What a job has in any settled state, whatever fails while it runs and whatever happens later. -/
theorem exists_salvages_of_startThrough
    (started : engine.startThrough outages query range = (.ok id, settled))
    (history : List (Operation × Outages)) :
    ∃ pipeline record kept counted, Pipeline.compile .builtin query range = .ok pipeline ∧
      (settled.performAllThrough history).jobs.store.record? id = some record ∧
      record.job = newJob pipeline query range ∧
      record.Salvages pipeline.outputType
        (pipeline.run ⟨engine.events, engine.configs⟩ false).batches kept counted := by
  rcases startThrough_cases engine outages query range with ⟨error, start_eq⟩ |
    ⟨pipeline, compiled, ⟨-, start_eq⟩ | ⟨-, start_eq⟩⟩
  · cases start_eq.symm.trans started
  · cases start_eq.symm.trans started
  · obtain ⟨id_eq, settled_eq⟩ := Prod.mk.inj (start_eq.symm.trans started)
    obtain rfl := Except.ok.inj id_eq
    obtain rfl := settled_eq
    let job := newJob pipeline query range
    let enrolled := (engine.facing (outages 0)).enroll job
    have fresh : Deposit.Salvages { jobs := enrolled.jobs } (engine.jobs.store.insert job).1 job
        [] :=
      ⟨rfl, { job }, [], [], record?_enroll job, rfl, .fresh job _⟩
    obtain ⟨record, kept, counted, found, ofJob, holds⟩ :=
      (fresh.storeThrough (outages.behind 1)
        (pipeline.run ⟨engine.events, engine.configs⟩ false).batches).salvaged
    obtain ⟨state, foundBehind⟩ := (keepsResults_of_executeThrough enrolled (outages.behind 1) _
      pipeline).trans (keepsResults_performAllThrough _ history) record found
    exact ⟨pipeline, _, kept, counted, compiled, foundBehind, ofJob, holds.withState state⟩

/-- Every reference that a job shows belongs to an event that its pipeline emits, whichever requests
fail. -/
theorem exists_event_of_mem_results (started : engine.start query range = (.ok id, settled))
    {refs : List EventRef} (shown : settled.jobs.store.results id 0 none = .ok refs) :
    ∃ pipeline, Pipeline.compile .builtin query range = .ok pipeline ∧
      ∀ ref ∈ refs, ∃ event ∈ (pipeline.run ⟨engine.events, engine.configs⟩ false).events,
        event.ref = ref := by
  obtain ⟨pipeline, record, kept, counted, compiled, found, -, salvages⟩ :=
    exists_salvages_of_startThrough started []
  refine ⟨pipeline, compiled, ?_⟩
  obtain rfl := Except.ok.inj ((JobStore.results_eq_ok found).symm.trans shown)
  intro ref member
  rw [JobRecord.mem_orderedResults, salvages.results_eq] at member
  obtain ⟨batch, batchKept, stored⟩ := List.mem_flatMap.mp member
  obtain ⟨event, emitted, rfl⟩ := Batch.exists_event_of_mem_storedRefs stored
  have batchEmitted := salvages.kept_sublist.subset batchKept
  exact ⟨event, List.mem_flatMap.mpr ⟨batch, batchEmitted, emitted⟩, rfl⟩

/-- Whatever requests to the store of jobs fail and whenever they do, while a job runs and later,
the values of a field that the job shows do not occur more often than it has found events or rows:
nothing is counted that is not stored.  The rows that it shows are among those that its pipeline
emits, in the same order and with the numbers that they have there, so their numbers ascend. -/
theorem statistics_count_only_what_is_stored
    (started : engine.startThrough outages query range = (.ok id, settled))
    (history : List (Operation × Outages)) :
    let store := (settled.performAllThrough history).jobs.store
    (∀ field, ∃ values matched, store.fieldValues id field = .ok values ∧
      store.matchedEvents id = .ok matched ∧ (values.toList.map Prod.snd).sum ≤ matched) ∧
    ∃ pipeline rows, Pipeline.compile .builtin query range = .ok pipeline ∧
      store.rows id 0 none = .ok rows ∧
      rows.Sublist
        (Deposit.numberRows 0 (pipeline.run ⟨engine.events, engine.configs⟩ false).rows) ∧
      (rows.map (·.number)).Pairwise (· < ·) := by
  intro store
  obtain ⟨pipeline, record, kept, counted, compiled, found, ofJob, salvages⟩ :=
    exists_salvages_of_startThrough started history
  have type_eq : pipeline.outputType = record.job.outputType := by
    rw [ofJob]
    rfl
  constructor
  · intro field
    refine ⟨_, _, JobStore.fieldValues_eq_ok found field, JobStore.matchedEvents_eq_ok found, ?_⟩
    rw [type_eq] at salvages
    exact (salvages.counts.sum_values_le field).trans salvages.length_counted_le
  · refine ⟨pipeline, record.rows, compiled, ?_, salvages.rows_sublist_rows,
      List.pairwise_map.mpr salvages.pairwise_rows⟩
    rw [JobStore.rows_eq_ok found, JobRecord.orderedRows_of_pairwise salvages.pairwise_rows]

/-- The rows of the first of two pages are lost; the row of the second page has the number that it
would have had behind them. -/
theorem lost_rows_use_up_their_numbers :
    let type : FileType :=
      { name := defaultTypeName, timeLayout := "", parser := .json defaultDelimiter "_time" }
    let engine : JobEngine :=
      { events := { added := [⟨"", .epoch, "a", "s"⟩, ⟨"", .epoch, "b", "s"⟩], pageSize := 1 }
        configs := .constant
          { files := [{ fileName := "s" }], fileTypes := .ofList [(type.name, type)] } }
    let outages : Outages := fun moment request =>
      if moment = 1 ∧ request = .addRows then some "full" else none
    ∃ settled, engine.startThrough outages "| table host" {} = (.ok 1, settled) ∧
      (∀ field, ∃ values matched, settled.jobs.store.fieldValues 1 field = .ok values ∧
        settled.jobs.store.matchedEvents 1 = .ok matched ∧
        (values.toList.map Prod.snd).sum ≤ matched) ∧
      (settled.jobs.store.rows 1 0 none).map
          (fun rows => rows.map fun row => (row.number, row.values.toList)) =
        .ok [(1, [("host", "a")])] := by
  intro type engine outages
  have evaluated : ((engine.startThrough outages "| table host" {}).1,
      ((engine.startThrough outages "| table host" {}).2.jobs.store.rows 1 0 none).map
        fun rows => rows.map fun row => (row.number, row.values.toList)) =
      (.ok 1, .ok [(1, [("host", "a")])]) := by
    cbv
  obtain ⟨id_eq, rows_eq⟩ := Prod.mk.inj evaluated
  have started : engine.startThrough outages "| table host" {} =
      (.ok 1, (engine.startThrough outages "| table host" {}).2) :=
    Prod.ext id_eq rfl
  exact ⟨_, started, (statistics_count_only_what_is_stored started []).1, rows_eq⟩

end JobEngine

end LogQuery
