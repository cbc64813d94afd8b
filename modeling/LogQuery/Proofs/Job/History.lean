import LogQuery.Proofs.Job.Calls
import LogQuery.Proofs.Job.Engine

/-!
# Histories of an engine

An operation uses an engine or what it reads from.  Besides, requests to its store may begin or
cease to fail, and others may write to the store.  A history is a list of such events, and the
engine is settled after each of them.  Where requests may begin and cease to fail while an operation
takes its course, its outages stand beside it in the history.
-/

namespace LogQuery

open LogQuery.Config

/-- Request a change; one that fails changes nothing. -/
def JobConnection.write (connection : JobConnection) (write : StoreWrite) : JobConnection :=
  let written := match write with
    | .insert job => (connection.insert job).map Prod.snd
    | .addResults id refs => connection.addResults id refs
    | .addRows id rows => connection.addRows id rows
    | .addCounts id counts => connection.addCounts id counts
    | .setState id state => connection.setState id state
  written.toOption.getD connection

namespace JobEngine

/-- A use of an engine or of what it reads from. -/
inductive Operation where
  | start (query : String) (range : TimeRange)
  | abort (id : Int)
  | shutdown
  | closeStreams
  | addEvent (event : NewEvent)
  | setConfig (config : LogConfig)
  /-- Whether streams of events stay open from now on. -/
  | keepOpen (keepsOpen : Bool)

/-- Something that happens to an engine. -/
inductive Occurrence where
  | operation (operation : Operation)
  /-- From now on these kinds of requests to the store of jobs fail. -/
  | outage (outage : StoreRequest → Option String)
  | write (write : StoreWrite)

/-- An engine that has not been used. -/
def unused (events : EventStore) (configs : ConfigSource) (jobs : JobConnection)
    (keepsOpen : Bool) : JobEngine :=
  { events, configs, jobs, keepsOpen }

/-- The engine after one operation, each request of which meets the outage of its moment. -/
def performThrough (outages : Outages) (engine : JobEngine) : Operation → JobEngine
  | .start query range => (engine.startThrough outages query range).2
  | .abort id => ((engine.facing (outages 0)).abort id).2
  | .shutdown => engine.shutdownThrough outages
  | .closeStreams => engine.closeStreamsThrough outages
  | .addEvent event => (engine.addEvent event).2
  | .setConfig config => engine.setConfig config
  | .keepOpen keepsOpen => { engine with keepsOpen }

/-- The engine after one operation, in the course of which no request begins or ceases to fail. -/
def perform (engine : JobEngine) (operation : Operation) : JobEngine :=
  engine.performThrough (.always engine.jobs.outage) operation

/-- The engine after one occurrence; an operation has a course in which requests may fail. -/
def undergoThrough (outages : Outages) (engine : JobEngine) : Occurrence → JobEngine
  | .operation operation => engine.performThrough outages operation
  | .outage outage => engine.facing outage
  | .write write => { engine with jobs := engine.jobs.write write }

/-- The engine after one occurrence, in the course of which no request begins or ceases to fail. -/
def undergo (engine : JobEngine) (occurrence : Occurrence) : JobEngine :=
  engine.undergoThrough (.always engine.jobs.outage) occurrence

/-- The engine after operations. -/
def performAll (engine : JobEngine) (operations : List Operation) : JobEngine :=
  operations.foldl perform engine

/-- The engine after occurrences. -/
def undergoAll (engine : JobEngine) (occurrences : List Occurrence) : JobEngine :=
  occurrences.foldl undergo engine

/-- The engine after operations, each with what fails in its course. -/
def performAllThrough (engine : JobEngine) (history : List (Operation × Outages)) : JobEngine :=
  history.foldl (fun engine event => engine.performThrough event.2 event.1) engine

/-- The engine after occurrences, each with what fails in its course. -/
def undergoAllThrough (engine : JobEngine) (history : List (Occurrence × Outages)) : JobEngine :=
  history.foldl (fun engine event => engine.undergoThrough event.2 event.1) engine

/-- The job that an operation starts. -/
def started? (engine : JobEngine) : Operation → Option Int
  | .start query range => (engine.start query range).1.toOption
  | _ => none

/-- The jobs that operations start. -/
def started (engine : JobEngine) : List Operation → List Int
  | [] => []
  | operation :: operations =>
      (engine.started? operation).toList ++ (engine.perform operation).started operations

variable {engine : JobEngine}

theorem perform_start {query : String} {range : TimeRange} :
    engine.perform (.start query range) = (engine.start query range).2 :=
  rfl

theorem perform_abort {id : Int} : engine.perform (.abort id) = (engine.abort id).2 :=
  rfl

theorem perform_shutdown : engine.perform .shutdown = engine.shutdown :=
  rfl

theorem perform_closeStreams : engine.perform .closeStreams = engine.closeStreams :=
  rfl

theorem performAll_append (before behind : List Operation) :
    engine.performAll (before ++ behind) = (engine.performAll before).performAll behind :=
  List.foldl_append

theorem mem_started_append {id : Int} {before : List Operation} {operation : Operation} :
    id ∈ engine.started (before ++ [operation]) ↔
      id ∈ engine.started before ∨ (engine.performAll before).started? operation = some id := by
  induction before generalizing engine with
  | nil => simp [started, performAll]
  | cons first before inductionHypothesis =>
      rw [List.cons_append, started, started, List.mem_append, List.mem_append,
        inductionHypothesis, or_assoc]
      rfl

theorem outage_perform (engine : JobEngine) (operation : Operation) :
    (engine.perform operation).jobs.outage = engine.jobs.outage := by
  cases operation with
  | start query range =>
      rcases start_cases engine query range with
        ⟨error, start_eq⟩ | ⟨job, error, -, start_eq⟩ | ⟨job, pipeline, -, start_eq⟩
      · rw [perform_start, start_eq]
      · rw [perform_start, start_eq, outage_finish]
        rfl
      · rw [perform_start, start_eq, outage_execute]
        rfl
  | abort id => exact outage_abort engine id
  | shutdown =>
      rw [perform_shutdown, shutdown_eq]
      exact outage_finishAll engine.requestShutdown engine.running .aborted
  | closeStreams =>
      rw [perform_closeStreams, closeStreams_eq]
      exact outage_finishAll engine engine.running .finished
  | addEvent event => rfl
  | setConfig config => rfl
  | keepOpen keepsOpen => rfl

theorem hasStopped_perform {operation : Operation} (other : operation ≠ .shutdown) :
    (engine.perform operation).registry.hasStopped = engine.registry.hasStopped := by
  cases operation with
  | start query range =>
      rcases start_cases engine query range with
        ⟨error, start_eq⟩ | ⟨job, error, -, start_eq⟩ | ⟨job, pipeline, -, start_eq⟩
      · rw [perform_start, start_eq]
      · rw [perform_start, start_eq]
        rfl
      · rw [perform_start, start_eq, hasStopped_execute]
        rfl
  | abort id => exact hasStopped_abort engine id
  | shutdown => exact absurd rfl other
  | closeStreams =>
      rw [perform_closeStreams, closeStreams_eq]
      exact hasStopped_finishAll engine engine.running .finished
  | addEvent event => rfl
  | setConfig config => rfl
  | keepOpen keepsOpen => rfl

/-- Only a shutdown stops the engine. -/
theorem hasStopped_perform_iff {operation : Operation} :
    (engine.perform operation).registry.hasStopped = true ↔
      engine.registry.hasStopped = true ∨ operation = .shutdown := by
  by_cases isShutdown : operation = .shutdown
  · rw [isShutdown, perform_shutdown, registry_shutdown]
    exact iff_of_true rfl (.inr rfl)
  · rw [hasStopped_perform isShutdown]
    exact (or_iff_left isShutdown).symm

theorem hasStopped_performAll_iff {operations : List Operation} :
    (engine.performAll operations).registry.hasStopped = true ↔
      engine.registry.hasStopped = true ∨ .shutdown ∈ operations := by
  induction operations generalizing engine with
  | nil => exact (or_iff_left List.not_mem_nil).symm
  | cons operation operations inductionHypothesis =>
      refine inductionHypothesis.trans ?_
      rw [hasStopped_perform_iff, List.mem_cons, or_assoc, @eq_comm _ operation]

end JobEngine

end LogQuery
