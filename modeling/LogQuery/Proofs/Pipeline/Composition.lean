import LogQuery.Proofs.Pipeline.Run
import LogQuery.Proofs.Pipeline.SearchResults
import LogQuery.Proofs.Pipeline.Typing
import Mathlib

/-!
# Steps as functions of lists

Steps work batch by batch: some drop a batch that has become empty, others send it on.  None of this
shows in what comes out altogether.  A step that goes on applies one function to all the events and
rows that come to it, however they are cut into batches, and a pipeline is the composition of these
functions, applied to the events of its first step.
-/

namespace LogQuery.Pipeline

open LogQuery.Config LogQuery.Text

/-- All events and all rows of some batches, in their order. -/
def Batch.concat (batches : List Batch) : Batch where
  events := batches.flatMap (·.events)
  rows := batches.flatMap (·.rows)

/-- What a step that goes on makes of all events and rows together. -/
def Step.transform : Step → Batch → Batch
  | .rex step, batch => .ofEvents (batch.events.map step.extend)
  | .filter step, batch =>
      { events := batch.events.filter step.keepsEvent, rows := batch.rows.filter step.keepsRow }
  | .table step, batch => .ofRows (batch.events.map step.row)
  | _, _ => {}

/-- The functions of steps one after the other. -/
def Step.transformAll (steps : List Step) (batch : Batch) : Batch :=
  steps.foldl (fun batch step => step.transform batch) batch

/-- What comes out of a step that goes on, when it has received everything. -/
inductive Step.Yields : Step → Batch → Batch → Prop where
  /-- The same events in the same order; only their fields may be others. -/
  | rex {step : RexStep} {input output : Batch}
      (events_eq : output.events.map (·.toEvent) = input.events.map (·.toEvent))
      (rows_eq : output.rows = []) : Yields (.rex step) input output
  /-- The events and rows of which all conditions hold. -/
  | filter {step : WhereStep} {input output : Batch}
      (events_eq : output.events = input.events.filter fun event =>
        step.conditions.all fun condition =>
          event.fields.value (lowercase condition.field) == condition.value)
      (rows_eq : output.rows = input.rows.filter fun row =>
        step.conditions.all fun condition => row.value condition.field == condition.value) :
      Yields (.filter step) input output
  /-- One row for each event. -/
  | table {step : TableStep} {input output : Batch} (events_eq : output.events = [])
      (rows_eq : output.rows = input.events.map fun event =>
        .ofPairs (step.columns.map fun column => (column, (event.value? column).getD ""))) :
      Yields (.table step) input output

/-- A table step among the given ones makes the row of the event, perhaps with further fields. -/
def MakesRow (steps : List Step) (row : Fields) (event : Event) : Prop :=
  ∃ table extracted, .table table ∈ steps ∧ extracted.toEvent = event ∧ row = table.row extracted

/-- What flows consists of the given events one by one, or of their rows. -/
inductive Batch.StemsFrom (steps : List Step) : PipeType → Batch → List Event → Prop where
  | events {batch : Batch} (noRows : batch.rows = []) :
      StemsFrom steps .events batch (batch.events.map (·.toEvent))
  | table {batch : Batch} {origins : List Event} (noEvents : batch.events = [])
      (made : List.Forall₂ (MakesRow steps) batch.rows origins) :
      StemsFrom steps .table batch origins

/-! ## Batches together -/

namespace Batch

instance : Append Batch where
  append first second :=
    { events := first.events ++ second.events, rows := first.rows ++ second.rows }

theorem concat_cons (batch : Batch) (batches : List Batch) :
    concat (batch :: batches) = batch ++ concat batches := rfl

theorem eq_empty_of_isEmpty {batch : Batch} (isEmpty : batch.isEmpty = true) : batch = {} := by
  rw [Batch.isEmpty, Bool.and_eq_true, List.isEmpty_iff, List.isEmpty_iff] at isEmpty
  exact congrArg₂ Batch.mk isEmpty.1 isEmpty.2

end Batch

namespace Step

variable {step : Step}

theorem Continues.transform_empty (continues : step.Continues) : step.transform {} = {} := by
  cases continues with
  | rex step => rfl
  | filter step => rfl
  | table step => rfl

theorem Continues.transform_append (continues : step.Continues) (batch other : Batch) :
    step.transform (batch ++ other) = step.transform batch ++ step.transform other := by
  cases continues with
  | rex step => exact congrArg Batch.ofEvents List.map_append
  | filter step => exact congrArg₂ Batch.mk (List.filter_append _ _) (List.filter_append _ _)
  | table step => exact congrArg Batch.ofRows List.map_append

/-- A step drops only a batch of which nothing is left. -/
theorem Continues.getD_pass (continues : step.Continues) (batch : Batch) :
    (step.pass batch).getD {} = step.transform batch := by
  cases continues with
  | rex step => rfl
  | filter step =>
      change (step.pass batch).getD {} = _
      unfold WhereStep.pass
      dsimp only
      split
      · next isEmpty => exact (Batch.eq_empty_of_isEmpty isEmpty).symm
      · rfl
  | table step =>
      change (step.pass batch).getD {} = Batch.ofRows (batch.events.map step.row)
      unfold TableStep.pass
      split
      · next isEmpty =>
          rw [List.isEmpty_iff.mp isEmpty]
          rfl
      · rfl

/-- How what comes to a step is cut into batches does not show behind the step. -/
theorem Continues.concat_filterMap_pass (continues : step.Continues) (batches : List Batch) :
    .concat (batches.filterMap step.pass) = step.transform (.concat batches) := by
  induction batches with
  | nil => exact continues.transform_empty.symm
  | cons batch batches inductionHypothesis =>
      have made := continues.getD_pass batch
      rw [List.filterMap_cons, Batch.concat_cons, continues.transform_append, ← made]
      cases step.pass batch with
      | none => exact inductionHypothesis
      | some passed => exact congrArg (passed ++ ·) inductionHypothesis

theorem Continues.yields (continues : step.Continues) (batch : Batch) :
    step.Yields batch (step.transform batch) := by
  cases continues with
  | rex step =>
      refine .rex ?_ rfl
      change (batch.events.map step.extend).map (·.toEvent) = _
      rw [List.map_map]
      exact List.map_congr_left fun event _ => step.toEvent_extend event
  | filter step => exact .filter rfl rfl
  | table step => exact .table rfl rfl

theorem Continues.batches_run (continues : step.Continues) (sources : Sources)
    (input : List Batch) :
    (step.run sources false false input).batches = input.filterMap step.pass := by
  cases continues with
  | rex step => rfl
  | filter step => rfl
  | table step => rfl

end Step

/-- Steps one behind the other apply their functions one after the other. -/
theorem concat_passAll {steps : List Step} (goOn : ∀ step ∈ steps, step.Continues)
    (batches : List Batch) :
    .concat (passAll steps batches) = Step.transformAll steps (.concat batches) := by
  induction steps generalizing batches with
  | nil => rfl
  | cons step steps inductionHypothesis =>
      obtain ⟨continues, othersGoOn⟩ := List.forall_mem_cons.mp goOn
      rw [Step.transformAll, List.foldl_cons, ← continues.concat_filterMap_pass]
      exact inductionHypothesis othersGoOn _

/-! ## Where everything comes from -/

theorem exists_sublist_of_forall₂_filter {α β : Type} {related : α → β → Prop} {items : List α}
    {others : List β} (keeps : α → Bool) (paired : List.Forall₂ related items others) :
    ∃ kept, kept.Sublist others ∧ List.Forall₂ related (items.filter keeps) kept := by
  induction paired with
  | nil => exact ⟨[], .slnil, .nil⟩
  | @cons item other items others pair _ inductionHypothesis =>
      obtain ⟨kept, sublist, paired⟩ := inductionHypothesis
      rw [List.filter_cons]
      split
      · exact ⟨other :: kept, sublist.cons_cons other, .cons pair paired⟩
      · exact ⟨kept, sublist.cons other, paired⟩

section Origins

variable {steps : List Step} {batch : Batch} {origins : List Event}

/-- A step keeps the origins of what comes to it, in their order, and only a filter drops any. -/
theorem Batch.StemsFrom.transform {step : Step} {input output : PipeType}
    (stems : batch.StemsFrom steps input origins) (continues : step.Continues)
    (member : step ∈ steps) (fits : step.Fits ⟨input, output⟩) :
    ∃ kept, (step.transform batch).StemsFrom steps output kept ∧ kept.Sublist origins ∧
      ((∀ filter, step ≠ .filter filter) → kept = origins) := by
  cases continues with
  | rex step =>
      cases fits with
      | propagates input_eq => cases input_eq
      | declares input_eq output_eq =>
          cases input_eq
          cases output_eq
          cases stems with
          | events noRows =>
              cases (Step.Continues.rex step).yields batch with
              | rex events_eq rows_eq =>
                  refine ⟨_, .events rows_eq, ?_, fun _ => events_eq⟩
                  rw [events_eq]
  | filter step =>
      cases fits with
      | declares input_eq => cases input_eq
      | propagates input_eq output_eq =>
          cases stems with
          | events noRows =>
              have stillNoRows : batch.rows.filter step.keepsRow = [] := by rw [noRows]; rfl
              exact ⟨_, .events stillNoRows, List.filter_sublist.map _,
                fun notFilter => absurd rfl (notFilter step)⟩
          | table noEvents made =>
              have stillNoEvents : batch.events.filter step.keepsEvent = [] := by
                rw [noEvents]; rfl
              obtain ⟨kept, sublist, madeKept⟩ :=
                exists_sublist_of_forall₂_filter step.keepsRow made
              exact ⟨kept, .table stillNoEvents madeKept, sublist,
                fun notFilter => absurd rfl (notFilter step)⟩
  | table step =>
      cases fits with
      | propagates input_eq => cases input_eq
      | declares input_eq output_eq =>
          cases input_eq
          cases output_eq
          cases stems with
          | events noRows =>
              refine ⟨_, .table rfl ?_, List.Sublist.refl _, fun _ => rfl⟩
              change List.Forall₂ _ (batch.events.map step.row) _
              rw [List.forall₂_map_left_iff, List.forall₂_map_right_iff, List.forall₂_same]
              intro event _
              exact ⟨step, event, member, rfl, rfl⟩

/-- So do all steps behind the first one. -/
theorem Batch.StemsFrom.transformAll {rest : List Step} {type : PipeType} {before : String}
    {types : List PipeTypes} (stems : batch.StemsFrom steps type origins)
    (goOn : ∀ step ∈ rest, step.Continues) (members : ∀ step ∈ rest, step ∈ steps)
    (resolved : resolve type before rest = .ok types) :
    ∃ kept, (Step.transformAll rest batch).StemsFrom steps (lastOutput type types) kept ∧
      kept.Sublist origins ∧ ((∀ filter, .filter filter ∉ rest) → kept = origins) := by
  induction rest generalizing batch origins type before types with
  | nil =>
      obtain ⟨-, rfl⟩ := resolve_nil_eq_ok_iff.mp resolved
      exact ⟨origins, stems, List.Sublist.refl _, fun _ => rfl⟩
  | cons step rest inductionHypothesis =>
      obtain ⟨output, others, fits, behind, rfl⟩ := resolve_cons_eq_ok_iff.mp resolved
      obtain ⟨continues, restGoesOn⟩ := List.forall_mem_cons.mp goOn
      obtain ⟨member, restMembers⟩ := List.forall_mem_cons.mp members
      obtain ⟨kept, stemsBehind, sublist, all⟩ := stems.transform continues member fits
      obtain ⟨last, stemsLast, sublistLast, allLast⟩ :=
        inductionHypothesis stemsBehind restGoesOn restMembers behind
      rw [lastOutput_cons]
      refine ⟨last, stemsLast, sublistLast.trans sublist, ?_⟩
      intro noFilter
      have firstKeeps := all fun filter same => noFilter filter (same ▸ List.mem_cons_self)
      exact (allLast fun filter later => noFilter filter (List.mem_cons_of_mem step later)).trans
        firstKeeps

end Origins

/-! ## The first step -/

section First

variable {first : Step} {store : EventStore} {config : LogConfig}

/-- Under one configuration a step that begins a pipeline emits no rows. -/
theorem Step.Begins.rows_eq_nil (begins : first.Begins) :
    ∀ batch ∈ (first.emit ⟨store, .constant config⟩ none).batches, batch.rows = [] := by
  intro batch emitted
  cases begins with
  | search step =>
      change batch ∈ (step.scan none _ _).batches at emitted
      rw [SearchStep.scan_constant] at emitted
      obtain ⟨events, -, rfl⟩ := List.mem_map.mp emitted
      rfl
  | surrounding step =>
      change batch ∈ (step.emit _ none).batches at emitted
      unfold SurroundingStep.emit at emitted
      cases found : store.surrounding step.eventId step.count with
      | error error =>
          rw [found] at emitted
          cases emitted
      | ok events =>
          rw [found] at emitted
          obtain rfl := List.mem_singleton.mp emitted
          rfl

theorem Step.Begins.concat_emit (begins : first.Begins) :
    let emission := first.emit ⟨store, .constant config⟩ none
    Batch.concat emission.batches = .ofEvents emission.events :=
  congrArg₂ Batch.mk rfl (List.flatMap_eq_nil_iff.mpr begins.rows_eq_nil)

theorem Step.Begins.events_emit_repaged (begins : first.Begins) (size : Nat)
    (size_pos : 0 < size) :
    (first.emit ⟨{ store with pageSize := size, pageSize_pos := size_pos }, .constant config⟩
      none).events = (first.emit ⟨store, .constant config⟩ none).events := by
  cases begins with
  | search step =>
      change (step.scan none _ _).events = (step.scan none _ _).events
      rw [SearchStep.events_scan_constant, SearchStep.events_scan_constant,
        EventStore.flatten_pages, EventStore.flatten_pages]
      rfl
  | surrounding step => rfl

theorem Step.events_run (step : Step) (sources : Sources) :
    (step.run sources false false []).events = (step.emit sources none).events := by
  simp [Step.run, Emission.events]

theorem Step.Begins.output_eq {output : PipeType} (begins : first.Begins)
    (fits : first.Fits ⟨.nothing, output⟩) : output = .events := by
  cases begins with
  | search step | surrounding step =>
      cases fits with
      | declares _ output_eq =>
          cases output_eq
          rfl
      | propagates input_eq => cases input_eq

end First

/-- Without cancellation and under one configuration a pipeline is the composition of its steps as
functions of lists: a step behind the first one makes of what comes to it the same whichever way it
is cut into batches, and the pipeline applies these steps one after the other to the events of the
first one.  Each result stems from one of these events, in their order and each at most once, and
only filters leave any out.  The size of pages does not show. -/
theorem pipeline_composes_its_steps {query : String} {range : TimeRange} {pipeline : Pipeline}
    (compiled : compile .builtin query range = .ok pipeline) (store : EventStore)
    (config : LogConfig) :
    let sources : Sources := ⟨store, .constant config⟩
    let output := Batch.concat (pipeline.run sources false).batches
    ∃ first rest, pipeline.steps = first :: rest ∧ first.isGenerator = true ∧
      (∀ step ∈ rest, step.isGenerator = false ∧ ∀ input,
        Batch.concat (step.run sources false false input).batches = step.transform (.concat input) ∧
          step.Yields (.concat input) (step.transform (.concat input))) ∧
      let found := (first.run sources false false []).events
      output = Step.transformAll rest (.ofEvents found) ∧
        (∃ origins, output.StemsFrom rest pipeline.outputType origins ∧
          origins.Sublist (found.map (·.toEvent)) ∧
          ((∀ filter, .filter filter ∉ rest) → origins = found.map (·.toEvent))) ∧
        ∀ (size : Nat) (size_pos : 0 < size),
          let repaged := { store with pageSize := size, pageSize_pos := size_pos }
          Batch.concat (pipeline.run ⟨repaged, .constant config⟩ false).batches = output := by
  intro sources output
  obtain ⟨first, rest, steps_eq, begins, goOn⟩ := exists_steps_of_compile compiled
  have output_eq (store : EventStore) :
      Batch.concat (pipeline.run ⟨store, .constant config⟩ false).batches =
        Step.transformAll rest
          (.ofEvents (first.emit ⟨store, .constant config⟩ none).events) := by
    rw [run_eq steps_eq goOn, concat_passAll goOn, begins.concat_emit]
  have resolved := resolve_of_compile compiled
  rw [steps_eq] at resolved
  obtain ⟨type, others, fits, behind, types_eq⟩ := resolve_cons_eq_ok_iff.mp resolved
  obtain rfl := begins.output_eq fits
  have type_eq : pipeline.outputType = lastOutput .events others := by
    rw [outputType_eq_lastOutput, types_eq, lastOutput_cons]
  refine ⟨first, rest, steps_eq, begins.isGenerator, ?_, ?_, ?_, ?_⟩
  · intro step member
    have continues := goOn step member
    refine ⟨continues.isGenerator, fun input => ⟨?_, continues.yields _⟩⟩
    rw [continues.batches_run, continues.concat_filterMap_pass]
  · rw [first.events_run]
    exact output_eq store
  · have stems : (Batch.ofEvents (first.emit sources none).events).StemsFrom rest .events
        ((first.emit sources none).events.map (·.toEvent)) :=
      .events rfl
    rw [first.events_run, type_eq, show output = _ from output_eq store]
    exact stems.transformAll goOn (fun _ member => member) behind
  · intro size size_pos repaged
    rw [output_eq, begins.events_emit_repaged]
    exact (output_eq store).symm

/-- One of three events is filtered out, and the others become rows on whatever pages they are. -/
theorem filtered_rows_do_not_depend_on_pages :
    let type : FileType :=
      { name := defaultTypeName, timeLayout := "", parser := .json defaultDelimiter "_time" }
    let config : LogConfig :=
      { files := [{ fileName := "s" }], fileTypes := .ofList [(type.name, type)] }
    let store : EventStore :=
      { added := [⟨"", .epoch, "a", "s"⟩, ⟨"", .epoch, "b", "s"⟩, ⟨"", .epoch, "a", "s"⟩] }
    let repaged : EventStore := { store with pageSize := 1, pageSize_pos := by decide }
    ∃ pipeline, compile .builtin "| where host=a | table host" {} = .ok pipeline ∧
      (Batch.concat (pipeline.run ⟨repaged, .constant config⟩ false).batches).rows.map (·.toList) =
        [[("host", "a")], [("host", "a")]] := by
  intro type config store repaged
  let search : Step := .search { search := {}, range := {} }
  let steps : List Step := [.filter ⟨[⟨"host", "a"⟩]⟩, .table ⟨["host"]⟩]
  let pipeline : Pipeline :=
    ⟨search :: steps, [⟨.nothing, .events⟩, ⟨.events, .events⟩, ⟨.events, .table⟩]⟩
  have compiled : compile .builtin "| where host=a | table host" {} = .ok pipeline := by cbv
  have evaluated : (Step.transformAll steps (.ofEvents
      (search.run ⟨store, .constant config⟩ false false []).events)).rows.map (·.toList) =
        [[("host", "a")], [("host", "a")]] := by
    cbv
  obtain ⟨first, rest, steps_eq, -, -, composed, -, independent⟩ :=
    pipeline_composes_its_steps compiled store config
  obtain ⟨rfl, rfl⟩ := List.cons.inj steps_eq
  refine ⟨pipeline, compiled, ?_⟩
  rw [independent 1 (by decide), composed]
  exact evaluated

end LogQuery.Pipeline
