import LogQuery.Failure
import LogQuery.Job.Connection
import LogQuery.Pipeline.Compile

/-!
# The engine

An engine runs queries as jobs.  A job is recorded, registered, and fed from its pipeline batch by
batch until the pipeline has nothing more to give, or until the job is cancelled; `advance` is one
turn of it.  Operations show settled states: the next one begins when nothing is left to do.  In
such a state the registered jobs are those that wait for further events.

Requests to the store of jobs may begin and cease to fail at any moment, also between two batches of
one job or in the middle of a shutdown.  What takes several moments goes through outages that change
from one to the next, and the operation by itself is the case of one outage throughout.
-/

namespace LogQuery

open LogQuery.Config LogQuery.Pipeline

/-- An engine with all that it reads from and writes to. -/
structure JobEngine where
  events : EventStore := {}
  configs : ConfigSource := .constant .everyFile
  jobs : JobConnection := {}
  /-- The token of a job is named by the job itself. -/
  registry : JobRegistry Int := .empty
  /-- Whether streams of events stay open after their last page. -/
  keepsOpen : Bool := false

/-- Why requests fail, from one moment to the next.  A moment is as short as storing one batch or
finishing one job, so it sees at most one request of each kind. -/
abbrev Outages := Nat → StoreRequest → Option String

namespace Outages

/-- The same kinds of requests fail all the time. -/
def always (outage : StoreRequest → Option String) : Outages := fun _ => outage

/-- What fails some moments later. -/
def behind (outages : Outages) (count : Nat) : Outages := fun moment => outages (moment + count)

end Outages

/-- A connection to which a job writes, and the number of its next row. -/
structure Deposit where
  jobs : JobConnection
  nextRow : Int := 0

namespace Deposit

/-- Count the values of what has just been stored. -/
def storeCounts (deposit : Deposit) (id : Int) (maps : List Fields) : Deposit :=
  match deposit.jobs.addCounts id (Histogram.ofFields maps).toCounts with
  | .ok jobs => { deposit with jobs }
  | .error _ => deposit

/-- Store the events of a batch.  Their values count only if they are stored. -/
def storeEvents (deposit : Deposit) (id : Int) (events : List ExtractedEvent) : Deposit :=
  if events.isEmpty then deposit
  else
    match deposit.jobs.addResults id (events.map fun event => event.ref) with
    | .ok jobs => storeCounts { deposit with jobs } id (events.map fun event => event.fields)
    | .error _ => deposit

/-- Rows with ascending numbers. -/
def numberRows (first : Int) (rows : List Fields) : List TableRow :=
  rows.mapIdx fun index values => { number := first + index, values }

/-- Store the rows of a batch.  Their numbers are used up even if they cannot be stored, and their
values count only if they are. -/
def storeRows (deposit : Deposit) (id : Int) (rows : List Fields) : Deposit :=
  let numbered := numberRows deposit.nextRow rows
  let advanced := { deposit with nextRow := deposit.nextRow + rows.length }
  if rows.isEmpty then deposit
  else
    match deposit.jobs.addRows id numbered with
    | .ok jobs => storeCounts { advanced with jobs } id rows
    | .error _ => advanced

/-- Store a batch. -/
def store (outputType : PipeType) (id : Int) (deposit : Deposit) (batch : Batch) : Deposit :=
  if outputType = .table then deposit.storeRows id batch.rows
  else deposit.storeEvents id batch.events

end Deposit

/-- A job that has begun to run and has not ended. -/
structure LiveJob where
  id : Int
  outputType : PipeType
  /-- What its pipeline has given and the job has not stored yet. -/
  pending : List Batch
  nextRow : Int := 0
  /-- The state in which it ends behind its last batch.  Without one it waits for further events. -/
  ending? : Option JobState

namespace JobEngine

/-- The engine when these requests fail. -/
def facing (engine : JobEngine) (outage : StoreRequest → Option String) : JobEngine :=
  { engine with jobs := { engine.jobs with outage } }

/-! ## Running jobs -/

/-- The record of a job that runs a pipeline. -/
def newJob (pipeline : Pipeline) (query : String) (range : TimeRange) : NewJob where
  query := query
  range := range
  sortMode := pipeline.sortMode
  outputType := pipeline.outputType
  columns := pipeline.columns

/-- Move a job to its last state, if that can be written, and forget it. -/
def finish (engine : JobEngine) (id : Int) (state : JobState) : JobEngine :=
  { engine with
    jobs := (engine.jobs.setState id state).toOption.getD engine.jobs
    registry := engine.registry.remove id }

/-- A registered job begins to run. -/
def launch (engine : JobEngine) (id : Int) (pipeline : Pipeline) : LiveJob × JobEngine :=
  let emission := pipeline.run ⟨engine.events, engine.configs⟩ false
  let ending : JobState := if emission.failures.isEmpty then .finished else .partialFailure
  ({ id
     outputType := pipeline.outputType
     pending := emission.batches
     ending? := if emission.exhausted && engine.keepsOpen then none else some ending },
   { engine with configs := emission.configs })

/-- A job has its turn.  If it has been cancelled it is aborted, whatever is still to be stored.
Else it stores its next batch; behind the last one it ends or waits. -/
def advance (engine : JobEngine) (job : LiveJob) (cancelled : Bool) :
    JobEngine × Option LiveJob :=
  if cancelled then (engine.finish job.id .aborted, none)
  else
    match job.pending, job.ending? with
    | batch :: pending, _ =>
        let deposit := Deposit.store job.outputType job.id ⟨engine.jobs, job.nextRow⟩ batch
        ({ engine with jobs := deposit.jobs },
          some { job with pending, nextRow := deposit.nextRow })
    | [], some state => (engine.finish job.id state, none)
    | [], none => (engine, some job)

/-- A job that nobody cancels has some turns, each at a moment of its own. -/
def advanceThrough (outages : Outages) (engine : JobEngine) (job : LiveJob) :
    Nat → JobEngine × Option LiveJob
  | 0 => (engine, some job)
  | turns + 1 =>
      match (engine.facing (outages 0)).advance job false with
      | (advanced, none) => (advanced, none)
      | (advanced, some job) => advanceThrough (outages.behind 1) advanced job turns

/-- A job that nobody cancels runs until it waits or ends. -/
def settleThrough (outages : Outages) (engine : JobEngine) (job : LiveJob) : JobEngine :=
  (advanceThrough outages engine job (job.pending.length + 1)).1

/-- Run a registered job; its batches and its end come one after the other. -/
def executeThrough (outages : Outages) (engine : JobEngine) (id : Int) (pipeline : Pipeline) :
    JobEngine :=
  let (job, launched) := engine.launch id pipeline
  launched.settleThrough outages job

/-- Run a registered job until it waits or ends. -/
def execute (engine : JobEngine) (id : Int) (pipeline : Pipeline) : JobEngine :=
  engine.executeThrough (.always engine.jobs.outage) id pipeline

/-- Finish jobs, each at a moment of its own. -/
def finishAllThrough (outages : Outages) (engine : JobEngine) (state : JobState) :
    List Int → JobEngine
  | [] => engine
  | id :: ids =>
      finishAllThrough (outages.behind 1) ((engine.facing (outages 0)).finish id state) state ids

/-! ## Starting -/

/-- Record, register and launch a job.  Nothing is recorded of a query that does not compile; a job
that cannot be registered is recorded as aborted. -/
def prepare (engine : JobEngine) (query : String) (range : TimeRange) :
    Except Failure LiveJob × JobEngine :=
  match Pipeline.compile .builtin query range with
  | .error error => (.error (.compile error), engine)
  | .ok pipeline =>
      match engine.jobs.insert (newJob pipeline query range) with
      | .error error => (.error (.store error), engine)
      | .ok (id, jobs) =>
          let inserted := { engine with jobs }
          match engine.registry.register id id with
          | .error error => (.error (.registry error), inserted.finish id .aborted)
          | .ok registry =>
              let (job, launched) := { inserted with registry }.launch id pipeline
              (.ok job, launched)

/-- Start a job; it runs after it has been recorded and registered. -/
def startThrough (outages : Outages) (engine : JobEngine) (query : String) (range : TimeRange) :
    Except Failure Int × JobEngine :=
  match (engine.facing (outages 0)).prepare query range with
  | (.error error, refused) => (.error error, refused)
  | (.ok job, launched) => (.ok job.id, launched.settleThrough (outages.behind 1) job)

/-- Start a job. -/
def start (engine : JobEngine) (query : String) (range : TimeRange) :
    Except Failure Int × JobEngine :=
  engine.startThrough (.always engine.jobs.outage) query range

/-! ## Stopping -/

/-- Request that a job be aborted.  A registered job is cancelled, and notices that when it has its
turn.  The record of one that is not registered is looked at, and if it says that the job is running
it is corrected. -/
def requestAbort (engine : JobEngine) (id : Int) : Except Failure Unit × JobEngine :=
  if engine.registry.contains id then
    (.ok (), { engine with registry := engine.registry.cancel id })
  else
    match engine.jobs.get id with
    | .error (.jobNotFound id) => (.error (.jobNotFound id), engine)
    | .error error => (.error (.jobUnverified id error), engine)
    | .ok job =>
        if job.state.isTerminal then (.ok (), engine)
        else
          match engine.jobs.setState id .aborted with
          | .ok jobs => (.ok (), { engine with jobs })
          | .error error => (.error (.jobUnverified id error), engine)

/-- Abort a job.  A registered one notices at once. -/
def abort (engine : JobEngine) (id : Int) : Except Failure Unit × JobEngine :=
  let (answer, requested) := engine.requestAbort id
  (answer, if engine.registry.contains id then requested.finish id .aborted else requested)

/-- Cancel all registered jobs, and start no more. -/
def requestShutdown (engine : JobEngine) : JobEngine :=
  { engine with registry := engine.registry.shutdown }

/-- Cancel all registered jobs, and start no more; the jobs notice one after the other. -/
def shutdownThrough (outages : Outages) (engine : JobEngine) : JobEngine :=
  finishAllThrough outages engine.requestShutdown .aborted engine.registry.running

/-- Abort all jobs that wait, and start no more. -/
def shutdown (engine : JobEngine) : JobEngine :=
  engine.shutdownThrough (.always engine.jobs.outage)

/-- Close all streams of events, which ends the jobs that wait for more, one after the other. -/
def closeStreamsThrough (outages : Outages) (engine : JobEngine) : JobEngine :=
  finishAllThrough outages engine .finished engine.registry.running

/-- Close all streams of events, which ends the jobs that wait for more. -/
def closeStreams (engine : JobEngine) : JobEngine :=
  engine.closeStreamsThrough (.always engine.jobs.outage)

/-! ## Looking at an engine, and what it reads from -/

/-- The jobs that wait. -/
def running (engine : JobEngine) : List Int :=
  engine.registry.running

/-- Add an event; its number is returned. -/
def addEvent (engine : JobEngine) (event : NewEvent) : Int × JobEngine :=
  let (id, events) := engine.events.add event
  (id, { engine with events })

/-- Replace the configuration. -/
def setConfig (engine : JobEngine) (config : LogConfig) : JobEngine :=
  { engine with configs := engine.configs.replace config }

end JobEngine

end LogQuery
