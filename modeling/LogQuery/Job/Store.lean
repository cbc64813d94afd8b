import LogQuery.Job
import LogQuery.Job.Histogram

/-!
# Stores of jobs

A store numbers its jobs from one, in the order in which they are inserted.  Results can be added to
a job while it runs; once it has ended nothing of it changes any more.  A record is changed where it
stands: what an action has done to it before it fails would stay, so an action looks first whether
the job is running.
-/

namespace LogQuery

/-- Why a store does not do what it is asked for. -/
inductive StoreError where
  | jobNotFound (id : Int)
  | jobTerminated (id : Int) (state : JobState)
  /-- The store cannot be reached. -/
  | backend (reason : String)
  deriving Repr, DecidableEq

/-- The wording of the error. -/
def StoreError.message : StoreError → String
  | .jobNotFound id => s!"job {id} not found"
  | .jobTerminated id state => s!"job {id} is already in terminal state {state.describe}"
  | .backend reason => s!"storage backend error: {reason}"

/-- A job and its results. -/
structure JobRecord where
  job : NewJob
  state : JobState := .running
  /-- References to events, in the order in which they were added. -/
  results : List EventRef := []
  /-- Rows, in the order in which they were added. -/
  rows : List TableRow := []
  histogram : Histogram := ∅

namespace JobRecord

/-- References to all events, in the order that the job gives to its results. -/
def orderedResults (record : JobRecord) : List EventRef :=
  match record.job.sortMode with
  | .newestFirst => EventRef.newestFirst record.results
  | _ => record.results

/-- All rows by number; rows with one number stay as they were added. -/
def orderedRows (record : JobRecord) : List TableRow :=
  record.rows.mergeSort fun first second => decide (first.number ≤ second.number)

/-- Refuse to go on with a job that has ended. -/
def ensureRunning (record : JobRecord) (id : Int) : Except StoreError Unit :=
  if record.state.isTerminal then .error (.jobTerminated id record.state) else .ok ()

/-- Update a record unless its job has ended, and say what comes of it. -/
def updateRunning (id : Int) (update : JobRecord → JobRecord) (record : JobRecord) :
    Except StoreError Unit × JobRecord :=
  match record.ensureRunning id with
  | .ok () => (.ok (), update record)
  | .error error => (.error error, record)

/-- The record with further references to events. -/
def addResults (refs : List EventRef) (record : JobRecord) : JobRecord :=
  { record with results := record.results ++ refs }

/-- The record with further rows. -/
def addRows (rows : List TableRow) (record : JobRecord) : JobRecord :=
  { record with rows := record.rows ++ rows }

/-- The record with further counts of values. -/
def addCounts (counts : List FieldCount) (record : JobRecord) : JobRecord :=
  { record with histogram := record.histogram.addAll counts }

/-- The record with another state. -/
def setState (state : JobState) (record : JobRecord) : JobRecord :=
  { record with state }

/-- How many rows or events there are. -/
def matchedEvents (record : JobRecord) : Int :=
  if record.job.outputType = .table then record.rows.length else record.results.length

end JobRecord

/-- The jobs in the order of their numbers. -/
structure JobStore where
  records : List JobRecord := []

namespace JobStore

/-- The store without jobs. -/
def empty : JobStore := {}

/-- Where the record of a job stands. -/
def position? (id : Int) : Option Nat :=
  if 1 ≤ id then some (id - 1).toNat else none

/-- The record of a job. -/
def record? (store : JobStore) (id : Int) : Option JobRecord :=
  (position? id).bind (store.records[·]?)

/-- The record of a job that has to be there. -/
def record (store : JobStore) (id : Int) : Except StoreError JobRecord :=
  match store.record? id with
  | some record => .ok record
  | none => .error (.jobNotFound id)

/-- Act on the record of a job where it stands.  It is stored as the action leaves it, whatever the
action gives. -/
def withRecord (store : JobStore) (id : Int)
    (action : JobRecord → Except StoreError Unit × JobRecord) : Except StoreError Unit × JobStore :=
  match store.record? id with
  | none => (.error (.jobNotFound id), store)
  | some record =>
      let (outcome, left) := action record
      (outcome, { records := store.records.set (id - 1).toNat left })

/-- Update the record of a job where it stands if the job is running: what comes of it, and the store
that is left. -/
def modify (store : JobStore) (id : Int) (update : JobRecord → JobRecord) :
    Except StoreError Unit × JobStore :=
  store.withRecord id (JobRecord.updateRunning id update)

/-- The store in which the record of a running job is updated. -/
def change (store : JobStore) (id : Int) (update : JobRecord → JobRecord) :
    Except StoreError JobStore :=
  match store.modify id update with
  | (.ok (), changed) => .ok changed
  | (.error error, _) => .error error

/-- Insert a job; its number is returned. -/
def insert (store : JobStore) (job : NewJob) : Int × JobStore :=
  (store.records.length + 1, { records := store.records ++ [{ job }] })

/-- Add references to events. -/
def addResults (store : JobStore) (id : Int) (refs : List EventRef) :
    Except StoreError JobStore :=
  store.change id (JobRecord.addResults refs)

/-- Add rows. -/
def addRows (store : JobStore) (id : Int) (rows : List TableRow) : Except StoreError JobStore :=
  store.change id (JobRecord.addRows rows)

/-- Add to the counts of values. -/
def addCounts (store : JobStore) (id : Int) (counts : List FieldCount) :
    Except StoreError JobStore :=
  store.change id (JobRecord.addCounts counts)

/-- Move a running job to a state. -/
def setState (store : JobStore) (id : Int) (state : JobState) : Except StoreError JobStore :=
  store.change id (JobRecord.setState state)

/-- The job of a number. -/
def get (store : JobStore) (id : Int) : Except StoreError Job := do
  let record ← store.record id
  .ok { record.job with id, state := record.state }

/-- A window of a list; without a bound it goes on to the end. -/
def window {α : Type} (skip : Nat) (take? : Option Nat) (items : List α) : List α :=
  match take? with
  | some count => (items.drop skip).take count
  | none => items.drop skip

/-- A window of the references to events. -/
def results (store : JobStore) (id : Int) (skip : Nat) (take? : Option Nat) :
    Except StoreError (List EventRef) := do
  let record ← store.record id
  .ok (window skip take? record.orderedResults)

/-- A window of the rows. -/
def rows (store : JobStore) (id : Int) (skip : Nat) (take? : Option Nat) :
    Except StoreError (List TableRow) := do
  let record ← store.record id
  .ok (window skip take? record.orderedRows)

/-- How many values each field has. -/
def fieldOccurrences (store : JobStore) (id : Int) :
    Except StoreError (List (String × Nat)) := do
  let record ← store.record id
  .ok record.histogram.fieldOccurrences

/-- How often a field has each value. -/
def fieldValues (store : JobStore) (id : Int) (field : String) :
    Except StoreError (Std.ExtTreeMap String Int compare) := do
  let record ← store.record id
  .ok (record.histogram.valuesOf field)

/-- How many rows or events a job has found. -/
def matchedEvents (store : JobStore) (id : Int) : Except StoreError Int := do
  let record ← store.record id
  .ok record.matchedEvents

/-- The numbers that sum up a job. -/
def stats (store : JobStore) (id : Int) : Except StoreError JobStats := do
  let record ← store.record id
  .ok { estimatedProgress := if record.state.isTerminal then 1 else 0
        matchedEvents := record.matchedEvents
        fieldOccurrences := record.histogram.fieldOccurrences }

end JobStore

end LogQuery
