import LogQuery.Proofs.Event.Store
import LogQuery.Proofs.Pipeline.Builtin
import LogQuery.Proofs.Pipeline.Emission

/-!
# What a pipeline emits

The first step reads some events of the store, in an order and each at most once.  The steps behind
it may drop events, give them further fields or make rows of them, but they neither reorder events
nor add any.  This is so for every configuration and whether or not the run is cancelled.
-/

namespace LogQuery.Pipeline

open LogQuery.Config LogQuery.Extraction

/-- The events that a step which begins a pipeline reads from a store. -/
def Step.reads (store : EventStore) : Step → List Event
  | .search step => store.candidates step.search step.range
  | .surrounding step => (store.surrounding step.eventId step.count).toOption.getD []
  | _ => []

/-- No event is read twice. -/
theorem Step.nodup_map_id_reads (store : EventStore) (step : Step) :
    ((step.reads store).map (·.id)).Nodup := by
  cases step with
  | search step => exact store.nodup_map_id_candidates step.search step.range
  | surrounding step =>
      dsimp only [reads]
      cases found : store.surrounding step.eventId step.count with
      | error error => exact List.nodup_nil
      | ok events => exact store.nodup_map_id_of_surrounding found
  | rex step => exact List.nodup_nil
  | filter step => exact List.nodup_nil
  | table step => exact List.nodup_nil
  | declared declaration => exact List.nodup_nil

theorem map_toEvent_filterMap_parserFor?_sublist (files : FileMatcher) (events : List Event) :
    ((events.filterMap fun event => (files.parserFor? event.source).map (·.apply event)).map
      (·.toEvent)).Sublist events := by
  induction events with
  | nil => exact .slnil
  | cons event events inductionHypothesis =>
      rw [List.filterMap_cons]
      cases files.parserFor? event.source with
      | none => exact inductionHypothesis.cons event
      | some parser => exact inductionHypothesis.cons_cons event

/-- A step emits some of the events that it reads. -/
theorem Step.map_toEvent_events_emit_sublist (step : Step) (sources : Sources)
    (received : Option Nat) :
    ((step.emit sources received).events.map (·.toEvent)).Sublist (step.reads sources.events) := by
  cases step with
  | search step =>
      rw [reads, ← EventStore.flatten_pages]
      exact SearchStep.map_toEvent_events_scan_sublist received _ _
  | surrounding step =>
      dsimp only [reads, emit]
      unfold SurroundingStep.emit
      cases sources.events.surrounding step.eventId step.count with
      | error error => exact List.nil_sublist _
      | ok events =>
          dsimp only
          split
          · exact List.nil_sublist _
          · split
            · exact List.nil_sublist _
            · rw [Emission.events_prepend, Emission.events_nothing, List.append_nil]
              exact map_toEvent_filterMap_parserFor?_sublist _ events
  | rex step => exact List.nil_sublist _
  | filter step => exact List.nil_sublist _
  | table step => exact List.nil_sublist _
  | declared declaration => exact List.nil_sublist _

@[simp] theorem RexStep.toEvent_extend (step : RexStep) (event : ExtractedEvent) :
    (step.extend event).toEvent = event.toEvent := by
  unfold extend
  split
  · rfl
  · rfl

/-- The events of a batch that a step has made were in the batch before. -/
theorem Step.map_toEvent_pass_sublist {step : Step} {batch passed : Batch}
    (passes : step.pass batch = some passed) :
    (passed.events.map (·.toEvent)).Sublist (batch.events.map (·.toEvent)) := by
  cases step with
  | rex step =>
      obtain rfl := Option.some.inj passes
      have unchanged : (·.toEvent) ∘ step.extend = (·.toEvent) :=
        funext fun event => step.toEvent_extend event
      change ((batch.events.map step.extend).map (·.toEvent)).Sublist _
      rw [List.map_map, unchanged]
  | filter step =>
      change step.pass batch = some passed at passes
      unfold WhereStep.pass at passes
      dsimp only at passes
      split at passes
      · cases passes
      · obtain rfl := Option.some.inj passes
        exact List.filter_sublist.map _
  | table step =>
      change step.pass batch = some passed at passes
      unfold TableStep.pass at passes
      split at passes
      · cases passes
      · obtain rfl := Option.some.inj passes
        exact List.nil_sublist _
  | search step => cases passes
  | surrounding step => cases passes
  | declared declaration => cases passes

/-- What becomes of batches that go through steps. -/
def passAll (steps : List Step) (batches : List Batch) : List Batch :=
  steps.foldl (fun batches step => batches.filterMap step.pass) batches

theorem map_toEvent_filterMap_pass_sublist (step : Step) (batches : List Batch) :
    (((batches.filterMap step.pass).flatMap (·.events)).map (·.toEvent)).Sublist
      ((batches.flatMap (·.events)).map (·.toEvent)) := by
  induction batches with
  | nil => exact .slnil
  | cons batch batches inductionHypothesis =>
      rw [List.filterMap_cons, List.flatMap_cons, List.map_append]
      split
      · exact inductionHypothesis.trans (List.sublist_append_right _ _)
      · next passed passes =>
          rw [List.flatMap_cons, List.map_append]
          exact (Step.map_toEvent_pass_sublist passes).append inductionHypothesis

theorem map_toEvent_passAll_sublist (steps : List Step) (batches : List Batch) :
    (((passAll steps batches).flatMap (·.events)).map (·.toEvent)).Sublist
      ((batches.flatMap (·.events)).map (·.toEvent)) := by
  induction steps generalizing batches with
  | nil => exact List.Sublist.refl _
  | cons step steps inductionHypothesis =>
      exact (inductionHypothesis _).trans (map_toEvent_filterMap_pass_sublist step batches)

/-- Steps that go on with what they get receive every batch. -/
theorem Step.received_eq_none {steps : List Step} (goOn : ∀ step ∈ steps, step.Continues)
    (batches : List Batch) : received steps batches = none := by
  induction steps generalizing batches with
  | nil => rfl
  | cons step steps inductionHypothesis =>
      have receives := (goOn step List.mem_cons_self).receives
      have behind := inductionHypothesis fun other member =>
        goOn other (List.mem_cons_of_mem step member)
      simp only [received, receives, behind, Bool.not_true, Bool.false_eq_true, ↓reduceIte]

variable {pipeline : Pipeline} {first : Step} {rest : List Step}

/-- The steps behind the first one work on everything that it emits. -/
theorem run_eq (steps_eq : pipeline.steps = first :: rest)
    (goOn : ∀ step ∈ rest, step.Continues) (sources : Sources) :
    pipeline.run sources false =
      { first.emit sources none with
        batches := passAll rest (first.emit sources none).batches } := by
  unfold run
  rw [steps_eq]
  simp only [Bool.false_eq_true, ↓reduceIte, Step.received_eq_none goOn]
  rfl

/-- A pipeline emits some of the events that its first step reads, in their order. -/
theorem map_toEvent_events_run_sublist (steps_eq : pipeline.steps = first :: rest)
    (sources : Sources) (cancelled : Bool) :
    ((pipeline.run sources cancelled).events.map (·.toEvent)).Sublist
      (first.reads sources.events) := by
  unfold run
  rw [steps_eq]
  dsimp only
  split
  · exact List.nil_sublist _
  · refine (map_toEvent_passAll_sublist rest _).trans ?_
    split
    · exact first.map_toEvent_events_emit_sublist sources none
    · next count _ => exact first.map_toEvent_events_emit_sublist sources (some count)

end LogQuery.Pipeline
