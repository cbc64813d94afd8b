import LogQuery.Job.Engine
import LogQuery.Proofs.Job.Histogram
import LogQuery.Proofs.Job.Store

/-!
# What a job stores of its batches

As long as its requests succeed, a running job stores everything of a batch that its output type
asks for, once and behind what is there already.  Rows are numbered across all batches, and the
histogram counts what has been stored.  `Deposit.Holds` is the invariant that each batch preserves.
-/

namespace LogQuery

open LogQuery.Pipeline

namespace Pipeline.Batch

variable (outputType : PipeType) (batch : Batch)

/-- The references that a job of an output type stores. -/
def storedRefs : List EventRef :=
  if outputType = .table then [] else batch.events.map (·.ref)

/-- The rows that a job of an output type stores. -/
def storedRows : List Fields :=
  if outputType = .table then batch.rows else []

/-- The fields whose values a job of an output type counts. -/
def countedFields : List Fields :=
  if outputType = .table then batch.rows else batch.events.map (·.fields)

end Pipeline.Batch

/-- The record of a job that has stored these references and rows and counted these fields. -/
structure JobRecord.Gathers (record : JobRecord) (refs : List EventRef) (rows maps : List Fields) :
    Prop where
  results_eq : record.results = refs
  rows_eq : record.rows = Deposit.numberRows 0 rows
  counts : record.histogram.Counts maps

namespace Deposit

/-- The connection works, and a running job has stored these references and rows and counted these
fields. -/
structure Holds (deposit : Deposit) (id : Int) (job : NewJob) (refs : List EventRef)
    (rows maps : List Fields) : Prop where
  works : ∀ request, deposit.jobs.outage request = none
  nextRow_eq : deposit.nextRow = rows.length
  gathered : ∃ record, deposit.jobs.store.record? id = some record ∧ record.job = job ∧
    record.state = .running ∧ record.Gathers refs rows maps

theorem numberRows_append (first : Int) (rows more : List Fields) :
    numberRows first (rows ++ more) =
      numberRows first rows ++ numberRows (first + rows.length) more := by
  unfold numberRows
  rw [List.mapIdx_append]
  congr 1
  refine List.mapIdx_eq_mapIdx_iff.mpr fun index _ => ?_
  rw [TableRow.mk.injEq]
  exact ⟨by omega, rfl⟩

theorem map_values_numberRows (first : Int) (rows : List Fields) :
    (numberRows first rows).map (·.values) = rows := by
  refine List.ext_getElem ?_ fun index _ _ => ?_
  · rw [List.length_map, numberRows, List.length_mapIdx]
  · simp only [numberRows, List.getElem_map, List.getElem_mapIdx]

variable {deposit : Deposit} {id : Int} {job : NewJob} {refs : List EventRef}
  {rows maps : List Fields}

/-- Nothing but the histogram changes when values are counted. -/
theorem Holds.storeCounts (holds : deposit.Holds id job refs rows maps) (more : List Fields) :
    (deposit.storeCounts id more).Holds id job refs rows (maps ++ more) := by
  obtain ⟨record, found, ofJob, running, gathers⟩ := holds.gathered
  obtain ⟨changed, succeeds, sameOutage, stored⟩ :=
    JobConnection.apply_change_of_running
      (JobRecord.addCounts (Histogram.ofFields more).toCounts) (holds.works .addCounts) found
      running
  have counted : deposit.storeCounts id more = { deposit with jobs := changed } := by
    unfold Deposit.storeCounts JobConnection.addCounts JobStore.addCounts
    rw [succeeds]
  rw [counted]
  refine ⟨?_, holds.nextRow_eq, _, stored, ofJob, running, ?_⟩
  · intro request
    rw [sameOutage]
    exact holds.works request
  · exact ⟨gathers.results_eq, gathers.rows_eq, gathers.counts.addAll more⟩

theorem Holds.storeEvents (holds : deposit.Holds id job refs rows maps)
    (events : List ExtractedEvent) :
    (deposit.storeEvents id events).Holds id job (refs ++ events.map (·.ref)) rows
      (maps ++ events.map (·.fields)) := by
  unfold Deposit.storeEvents
  split
  · next empty =>
      rw [List.isEmpty_iff.mp empty, List.map_nil, List.map_nil, List.append_nil, List.append_nil]
      exact holds
  · obtain ⟨record, found, ofJob, running, gathers⟩ := holds.gathered
    obtain ⟨changed, succeeds, sameOutage, stored⟩ :=
      JobConnection.apply_change_of_running
        (JobRecord.addResults (events.map (·.ref))) (holds.works .addResults) found running
    have added : deposit.jobs.addResults id (events.map (·.ref)) = .ok changed := succeeds
    rw [added]
    have uncounted : Deposit.Holds { deposit with jobs := changed } id job
        (refs ++ events.map (·.ref)) rows maps := by
      refine ⟨?_, holds.nextRow_eq, _, stored, ofJob, running, ?_⟩
      · intro request
        rw [sameOutage]
        exact holds.works request
      · exact ⟨congrArg (· ++ _) gathers.results_eq, gathers.rows_eq, gathers.counts⟩
    exact uncounted.storeCounts _

theorem Holds.storeRows (holds : deposit.Holds id job refs rows maps) (more : List Fields) :
    (deposit.storeRows id more).Holds id job refs (rows ++ more) (maps ++ more) := by
  unfold Deposit.storeRows
  dsimp only
  split
  · next empty =>
      rw [List.isEmpty_iff.mp empty, List.append_nil, List.append_nil]
      exact holds
  · obtain ⟨record, found, ofJob, running, gathers⟩ := holds.gathered
    obtain ⟨changed, succeeds, sameOutage, stored⟩ :=
      JobConnection.apply_change_of_running
        (JobRecord.addRows (numberRows deposit.nextRow more)) (holds.works .addRows) found running
    have added : deposit.jobs.addRows id (numberRows deposit.nextRow more) = .ok changed := succeeds
    rw [added]
    have uncounted : Deposit.Holds
        { deposit with jobs := changed, nextRow := deposit.nextRow + more.length } id job refs
        (rows ++ more) maps := by
      refine ⟨?_, ?_, _, stored, ofJob, running, ?_⟩
      · intro request
        rw [sameOutage]
        exact holds.works request
      · rw [List.length_append, Int.natCast_add, ← holds.nextRow_eq]
      · refine ⟨gathers.results_eq, ?_, gathers.counts⟩
        rw [numberRows_append, ← gathers.rows_eq, Int.zero_add, ← holds.nextRow_eq]
        rfl
    exact uncounted.storeCounts _

/-- Storing one batch. -/
theorem Holds.store (holds : deposit.Holds id job refs rows maps) (outputType : PipeType)
    (batch : Batch) :
    (deposit.store outputType id batch).Holds id job (refs ++ batch.storedRefs outputType)
      (rows ++ batch.storedRows outputType) (maps ++ batch.countedFields outputType) := by
  unfold Deposit.store Batch.storedRefs Batch.storedRows Batch.countedFields
  split
  · rw [List.append_nil]
    exact holds.storeRows batch.rows
  · rw [List.append_nil]
    exact holds.storeEvents batch.events

/-- Storing all batches one after the other. -/
theorem Holds.foldl_store (holds : deposit.Holds id job refs rows maps) (outputType : PipeType)
    (batches : List Batch) :
    (batches.foldl (Deposit.store outputType id) deposit).Holds id job
      (refs ++ batches.flatMap (·.storedRefs outputType))
      (rows ++ batches.flatMap (·.storedRows outputType))
      (maps ++ batches.flatMap (·.countedFields outputType)) := by
  induction batches generalizing deposit refs rows maps with
  | nil =>
      simp only [List.flatMap_nil, List.append_nil]
      exact holds
  | cons batch batches inductionHypothesis =>
      simp only [List.foldl_cons, List.flatMap_cons, ← List.append_assoc]
      exact inductionHypothesis (holds.store outputType batch)

end Deposit

end LogQuery
