import LogQuery.Pipeline.Step

/-!
# What the first step of a pipeline emits

A step that begins a pipeline emits stored events with their fields.  Whichever configurations it
reads, and wherever it ends, its events are some of those that the store hands out, in the order in
which the store does so.
-/

namespace LogQuery

open LogQuery.Config LogQuery.Extraction

@[simp] theorem Extraction.FileParser.fields_apply (parser : FileParser) (event : Event) :
    (parser.apply event).fields = parser.fieldsOf event := rfl

namespace Pipeline

namespace Emission

/-- All events that have come out, in their order. -/
def events (emission : Emission) : List ExtractedEvent :=
  emission.batches.flatMap fun batch => batch.events

/-- All rows that have come out, in their order. -/
def rows (emission : Emission) : List Fields :=
  emission.batches.flatMap fun batch => batch.rows

@[simp] theorem events_nothing (configs : ConfigSource) : (nothing configs).events = [] := rfl

@[simp] theorem events_prepend (batch : Batch) (emission : Emission) :
    (emission.prepend batch).events = batch.events ++ emission.events := rfl

end Emission

namespace SearchStep

variable {step : SearchStep} {files : FileMatcher}

theorem select?_eq_some_iff {event : Event} {extracted : ExtractedEvent} :
    step.select? files event = some extracted ↔
      step.search.matchesRaw event.raw = true ∧
        ∃ parser, files.parserFor? event.source = some parser ∧
          step.search.matchesFields (parser.fieldsOf event) = true ∧
            parser.apply event = extracted := by
  unfold select?
  cases step.search.matchesRaw event.raw with
  | false => simp
  | true =>
      cases files.parserFor? event.source with
      | none => simp
      | some parser =>
          by_cases matched : step.search.matchesFields (parser.fieldsOf event) = true
          · simp [matched]
          · simp [matched]

theorem toEvent_of_select? {event : Event} {extracted : ExtractedEvent}
    (selected : step.select? files event = some extracted) : extracted.toEvent = event := by
  obtain ⟨-, parser, -, -, rfl⟩ := select?_eq_some_iff.mp selected
  rfl

/-- What is found on a page is part of the page. -/
theorem map_toEvent_selectPage_sublist (config : LogConfig) (page : List Event) :
    ((step.selectPage config page).map (·.toEvent)).Sublist page := by
  unfold selectPage
  induction page with
  | nil => exact .slnil
  | cons event page inductionHypothesis =>
      rw [List.filterMap_cons]
      split
      · exact inductionHypothesis.cons event
      · next extracted selected =>
          rw [List.map_cons, toEvent_of_select? selected]
          exact inductionHypothesis.cons_cons event

/-- Whatever the readings show and wherever the step ends, it emits events of the pages. -/
theorem map_toEvent_events_scan_sublist (received : Option Nat) (pages : List (List Event))
    (configs : ConfigSource) :
    ((step.scan received pages configs).events.map (·.toEvent)).Sublist pages.flatten := by
  induction pages generalizing received configs with
  | nil => exact .slnil
  | cons page pages inductionHypothesis =>
      rw [scan, List.flatten_cons]
      split
      · exact List.nil_sublist _
      · next config left _ =>
          dsimp only
          split
          · exact (inductionHypothesis received left).trans (List.sublist_append_right page _)
          · split
            · exact List.nil_sublist _
            · rw [Emission.events_prepend, List.map_append]
              exact (map_toEvent_selectPage_sublist config page).append
                (inductionHypothesis _ left)

end SearchStep

end Pipeline

end LogQuery
