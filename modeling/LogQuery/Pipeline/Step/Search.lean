import LogQuery.Extraction.FileMatcher
import LogQuery.Pipeline.Batch
import LogQuery.Pipeline.Error
import LogQuery.Query.Search.Reader
import LogQuery.Query.Stage
import LogQuery.Time.Timestamp

/-!
# The search step

It reads the events that a search finds in a time range, page by page.  The configuration is read
anew for each page, so a page is parsed with the configuration of its time; when a reading fails the
step stops, and what it found on earlier pages stays.
-/

namespace LogQuery.Pipeline

open LogQuery.Config LogQuery.Extraction LogQuery.Query LogQuery.Time

/-- A search in a time range. -/
structure SearchStep where
  search : Search
  range : TimeRange

namespace SearchStep

/-- The option for the first instant. -/
def startOption : String := "startTime"

/-- The option for the last instant. -/
def stopOption : String := "endTime"

/-- Read an instant from an option. -/
def readTime (options : Fields) (name : String) : Except CompileError (Option Instant) :=
  match options[name]? with
  | none => .ok none
  | some text =>
      match Instant.ofTimestamp? text with
      | some instant => .ok (some instant)
      | none => .error (.step (.invalidTime name text))

/-- The step that options and a value call for. -/
def compile (value : String) (options : Fields) : Except CompileError SearchStep := do
  let start? ← readTime options startOption
  let stop? ← readTime options stopOption
  let search ← (Search.read value).mapError .query
  .ok { search, range := { start?, stop? } }

/-- Write the bounds of a range into options, over those that are there. -/
def bound (range : TimeRange) (options : Fields) : Fields :=
  let started :=
    match range.start? with
    | some start => options.insert startOption start.timestamp
    | none => options
  match range.stop? with
  | some stop => started.insert stopOption stop.timestamp
  | none => started

/-- The event with its fields, if its source has a parser and the search finds it. -/
def select? (step : SearchStep) (files : FileMatcher) (event : Event) : Option ExtractedEvent := do
  if !step.search.matchesRaw event.raw then none
  let parser ← files.parserFor? event.source
  let extracted := parser.apply event
  if step.search.matchesFields extracted.fields then some extracted else none

/-- What the search finds on one page. -/
def selectPage (step : SearchStep) (config : LogConfig) (page : List Event) :
    List ExtractedEvent :=
  page.filterMap (step.select? (.ofConfig config))

/-- Go through pages.  Batches without events are left out, and a batch beyond those that are
received ends the step. -/
def scan (step : SearchStep) (received : Option Nat) : List (List Event) → ConfigSource → Emission
  | [], configs => { Emission.nothing configs with exhausted := true }
  | page :: pages, configs =>
      match configs.read with
      | (.error reason, configs) => .failure (.ofReading searchName reason) configs
      | (.ok config, configs) =>
          let found := step.selectPage config page
          if found.isEmpty then step.scan received pages configs
          else if received = some 0 then .nothing configs
          else (step.scan (received.map (· - 1)) pages configs).prepend (.ofEvents found)

/-- Run the step; of its batches so many are received, or all. -/
def emit (step : SearchStep) (sources : Sources) (received : Option Nat) : Emission :=
  step.scan received (sources.events.pages step.search step.range) sources.configs

end SearchStep

end LogQuery.Pipeline
