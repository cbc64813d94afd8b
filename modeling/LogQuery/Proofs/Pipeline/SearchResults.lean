import LogQuery.Proofs.Event.Store
import LogQuery.Proofs.Pipeline.Emission
import LogQuery.Proofs.Query.Search.Pushdown

/-!
# What a search finds

`SearchStep.Finds` says of one stored event that a search finds it, by the time range, the search
and the parser of its source alone.  Under a configuration that does not change the search step
emits exactly the events of which this holds, each once and from the newest to the oldest.  Neither
what the store leaves out nor how it cuts its pages makes a difference.
-/

namespace LogQuery.Pipeline

open LogQuery.Config LogQuery.Extraction LogQuery.Query

namespace SearchStep

/-- The event lies in the time range, its text and its fields are what the search asks for, and a
parser that belongs to its source has found the fields. -/
structure Finds (step : SearchStep) (files : FileMatcher) (event : Event)
    (extracted : ExtractedEvent) : Prop where
  inRange : step.range.contains event.timestamp = true
  rawMatches : step.search.matchesRaw event.raw = true
  parsed : ∃ parser, files.parserFor? event.source = some parser ∧
    step.search.matchesFields (parser.fieldsOf event) = true ∧ extracted = parser.apply event

variable {step : SearchStep} {files : FileMatcher} {config : LogConfig}

/-- Stored events in which a search finds something are candidates of the store. -/
theorem Finds.mem_candidates {store : EventStore} {event : Event} {extracted : ExtractedEvent}
    (finds : step.Finds files event extracted) (stored : event ∈ store.events) :
    event ∈ store.candidates step.search step.range := by
  obtain ⟨parser, -, matched, -⟩ := finds.parsed
  refine (store.mem_candidates).mpr ⟨stored, finds.inRange, ?_⟩
  exact Search.admits_of_matchesFields (parser.getElem?_fieldsOf_source event)
    (parser.getElem?_fieldsOf_host event) matched

/-- What is selected from the candidates of a store is what the search finds among all its
events. -/
theorem mem_filterMap_candidates {store : EventStore} {extracted : ExtractedEvent} :
    extracted ∈ (store.candidates step.search step.range).filterMap (step.select? files) ↔
      ∃ event ∈ store.events, step.Finds files event extracted := by
  rw [List.mem_filterMap]
  constructor
  · rintro ⟨event, candidate, selected⟩
    obtain ⟨stored, inRange, -⟩ := (store.mem_candidates).mp candidate
    obtain ⟨rawMatches, parser, parsed, matched, rfl⟩ := select?_eq_some_iff.mp selected
    exact ⟨event, stored, inRange, rawMatches, parser, parsed, matched, rfl⟩
  · rintro ⟨event, stored, finds⟩
    obtain ⟨parser, parsed, matched, rfl⟩ := finds.parsed
    exact ⟨event, finds.mem_candidates stored,
      select?_eq_some_iff.mpr ⟨finds.rawMatches, parser, parsed, matched, rfl⟩⟩

/-- With one configuration for all pages, the step goes through all of them without failing. -/
theorem scan_constant (pages : List (List Event)) :
    step.scan none pages (.constant config) =
      { batches := ((pages.map (step.selectPage config)).filter (!·.isEmpty)).map Batch.ofEvents
        failures := []
        configs := .constant config
        exhausted := true } := by
  induction pages with
  | nil => rfl
  | cons page pages inductionHypothesis =>
      rw [scan, List.map_cons]
      simp only [ConfigSource.read, Option.map_none, inductionHypothesis, reduceCtorEq, ↓reduceIte]
      split
      · next empty =>
          rw [List.filter_cons_of_neg (by simp [empty])]
      · next found =>
          rw [List.filter_cons_of_pos (by simp [found])]
          rfl

/-- The events that come out are those that are selected from all pages together. -/
theorem events_scan_constant (pages : List (List Event)) :
    (step.scan none pages (.constant config)).events =
      pages.flatten.filterMap (step.select? (.ofConfig config)) := by
  induction pages with
  | nil => rfl
  | cons page pages inductionHypothesis =>
      rw [scan, List.flatten_cons, List.filterMap_append]
      simp only [ConfigSource.read, Option.map_none, reduceCtorEq, ↓reduceIte]
      split
      · next empty =>
          rw [inductionHypothesis]
          change _ = step.selectPage config page ++ _
          rw [List.isEmpty_iff.mp empty, List.nil_append]
      · rw [Emission.events_prepend, inductionHypothesis]
        rfl

/-- Run by itself, the step does nothing with batches that are sent to it. -/
theorem run_eq_scan (store : EventStore) (configs : ConfigSource) (input : List Batch) :
    (Step.search step).run ⟨store, configs⟩ false false input =
      step.scan none (store.pages step.search step.range) configs := by
  have passesNothing : input.filterMap (Step.search step).pass = [] :=
    List.filterMap_eq_nil_iff.mpr fun _ _ => rfl
  simp only [Step.run, Bool.false_eq_true, ↓reduceIte, passesNothing, List.append_nil]
  rfl

end SearchStep

/-- A search step emits exactly what its search finds in the store: each event once, in the order of
results, in batches that hold events, and without failing.  The store leaves no event out that the
search accepts, and the size of its pages does not show. -/
theorem search_emits_what_it_finds (store : EventStore) (config : LogConfig) (step : SearchStep)
    (input : List Batch) :
    let files := FileMatcher.ofConfig config
    let emission := (Step.search step).run ⟨store, .constant config⟩ false false input
    (∀ extracted, extracted ∈ emission.events ↔
        ∃ event ∈ store.events, step.Finds files event extracted) ∧
      emission.events.Pairwise (fun first second => first.ref.Precedes second.ref) ∧
      (emission.events.map (·.id)).Nodup ∧
      (∀ batch ∈ emission.batches, batch.events ≠ [] ∧ batch.rows = []) ∧
      emission.failures = [] ∧ emission.exhausted = true ∧
      (∀ (event : Event) (parser : FileParser),
        step.search.matchesFields (parser.fieldsOf event) = true →
          step.search.admits event.source event.host = true) ∧
      ∀ (size : Nat) (size_pos : 0 < size),
        let repaged := { store with pageSize := size, pageSize_pos := size_pos }
        ((Step.search step).run ⟨repaged, .constant config⟩ false false input).events =
          emission.events := by
  intro files emission
  have emission_eq : emission = step.scan none _ _ := SearchStep.run_eq_scan store _ input
  have events_eq : emission.events =
      (store.candidates step.search step.range).filterMap (step.select? files) := by
    rw [emission_eq, SearchStep.events_scan_constant, EventStore.flatten_pages]
  have inOrder : (emission.events.map (·.toEvent)).Sublist
      (store.candidates step.search step.range) := by
    rw [emission_eq, ← EventStore.flatten_pages]
    exact SearchStep.map_toEvent_events_scan_sublist none _ _
  have ordered := (store.pairwise_candidates step.search step.range).sublist inOrder
  rw [List.pairwise_map] at ordered
  refine ⟨?_, ordered, ?_, ?_, ?_, ?_, ?_, ?_⟩
  · intro extracted
    rw [events_eq]
    exact SearchStep.mem_filterMap_candidates
  · have numbers := (store.nodup_map_id_candidates step.search step.range).sublist
      (inOrder.map (·.id))
    rwa [List.map_map] at numbers
  · intro batch member
    rw [emission_eq, SearchStep.scan_constant] at member
    obtain ⟨found, nonempty, rfl⟩ := List.mem_map.mp member
    refine ⟨?_, rfl⟩
    intro empty
    have notEmpty := (List.mem_filter.mp nonempty).2
    rw [show found = [] from empty] at notEmpty
    cases notEmpty
  · rw [emission_eq, SearchStep.scan_constant]
  · rw [emission_eq, SearchStep.scan_constant]
  · intro event parser matched
    exact Search.admits_of_matchesFields (parser.getElem?_fieldsOf_source event)
      (parser.getElem?_fieldsOf_host event) matched
  · intro size size_pos repaged
    rw [events_eq, SearchStep.run_eq_scan, SearchStep.events_scan_constant,
      EventStore.flatten_pages]
    rfl

end LogQuery.Pipeline
