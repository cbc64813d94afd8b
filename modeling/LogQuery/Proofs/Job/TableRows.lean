import LogQuery.Proofs.Fields
import LogQuery.Proofs.Job.Provenance
import LogQuery.Proofs.Pipeline.Composition
import LogQuery.Proofs.Pipeline.Misfits

/-!
# Rows of a table

A query that gives a table has one table step, and only filters behind it.  Each of its rows shows
one event that the steps in front of the table let through, in the columns that the pipeline
announces when it is compiled; so does each row that a job for the query has stored.
-/

namespace LogQuery

open LogQuery.Config

/-! ## The row of an event -/

/-- The row holds, in each of these columns and under no other name, the value of the field of that
name, or the empty text if the event does not have it. -/
def Fields.Shows (columns : List String) (row : Fields) (event : ExtractedEvent) : Prop :=
  ∀ name, row[name]? = if name ∈ columns then some ((event.value? name).getD "") else none

namespace Fields

/-- Of several pairs under one name that agree it does not matter which one counts. -/
theorem getElem?_ofPairs_map (columns : List String) (value : String → String) (name : String) :
    (ofPairs (columns.map fun column => (column, value column)))[name]? =
      if name ∈ columns then some (value name) else none := by
  rw [getElem?_ofPairs, ← List.map_reverse]
  split
  · next member => exact List.lookup_graph value (List.mem_reverse.mpr member)
  · next absent =>
      refine List.lookup_eq_none_iff.mpr fun pair shown => ?_
      obtain ⟨column, member, rfl⟩ := List.mem_map.mp shown
      refine bne_iff_ne.mpr ?_
      rintro rfl
      exact absent (List.mem_reverse.mp member)

end Fields

namespace Pipeline

theorem TableStep.shows_row (table : TableStep) (event : ExtractedEvent) :
    Fields.Shows table.columns (table.row event) event :=
  Fields.getElem?_ofPairs_map table.columns fun column => (event.value? column).getD ""

theorem TableStep.columns_ne_nil {value : String} {table : TableStep}
    (compiled : TableStep.compile value = .ok table) : table.columns ≠ [] := by
  unfold TableStep.compile at compiled
  split at compiled
  · cases compiled
  · next columns notEmpty =>
      obtain rfl := Except.ok.inj compiled
      exact notEmpty

/-! ## The steps of a pipeline with a table -/

variable {query : String} {range : TimeRange} {pipeline : Pipeline}

theorem fromLastGenerator_subset (steps : List Step) : fromLastGenerator steps ⊆ steps := by
  induction steps with
  | nil => exact List.Subset.refl _
  | cons step steps inductionHypothesis =>
      unfold fromLastGenerator
      split
      · exact List.subset_cons_of_subset step inductionHypothesis
      · exact List.Subset.refl _

/-- Every table in a compiled query has columns. -/
theorem columns_ne_nil_of_mem_steps (compiled : compile .builtin query range = .ok pipeline)
    {table : TableStep} (member : .table table ∈ pipeline.steps) : table.columns ≠ [] := by
  obtain ⟨stages, made, steps, types, -, compiles, generated, -, rfl⟩ :=
    compile_eq_ok_iff.mp compiled
  have memberMade : Step.table table ∈ made := by
    have stillMember := fromLastGenerator_subset steps member
    rcases withGenerator_builtin_eq_ok_iff.mp generated with ⟨-, rfl⟩ | ⟨-, search, -, rfl⟩
    · exact stillMember
    · exact (List.mem_cons.mp stillMember).resolve_left Step.noConfusion
  obtain ⟨stage, -, stageCompiles⟩ := exists_mem_of_forall₂ compiles memberMade
  cases StepRegistry.compileStage_builtin_iff.mp stageCompiles with
  | table name_eq tableCompiled => exact TableStep.columns_ne_nil tableCompiled

theorem Step.exists_filters {behind : List Step} (goOn : ∀ step ∈ behind, step.Continues)
    (content : ∀ step ∈ behind, ¬step.AsksForEvents) :
    ∃ filters : List WhereStep, behind = filters.map .filter := by
  have isFilter : ∀ step ∈ behind, step ∈ Set.range Step.filter := by
    intro step member
    have notAsking := content step member
    cases goOn step member with
    | rex rex | table table => exact absurd trivial notAsking
    | filter filter => exact ⟨filter, rfl⟩
  have isMap : behind ∈ Set.range (List.map Step.filter) := by
    rw [Set.range_list_map]
    exact isFilter
  obtain ⟨filters, filters_eq⟩ := isMap
  exact ⟨filters, filters_eq.symm⟩

/-- If a query gives a table, only filters stand behind the step that makes it. -/
theorem exists_table_of_outputType (compiled : compile .builtin query range = .ok pipeline)
    (isTable : pipeline.outputType = .table) :
    ∃ (first : Step) (middle : List Step) (table : TableStep) (filters : List WhereStep),
      pipeline.steps = first :: (middle ++ .table table :: filters.map .filter) ∧
      first.Begins ∧ ∀ step ∈ middle, step.Continues := by
  obtain ⟨first, rest, steps_eq, begins, goOn⟩ := exists_steps_of_compile compiled
  have resolved := resolve_of_compile compiled
  rw [steps_eq, begins.resolve_cons] at resolved
  obtain ⟨types, resolvedBehind, types_eq⟩ := map_eq_ok_iff.mp resolved
  obtain ⟨gives, admits⟩ :=
    gives_of_resolve begins.gives (List.pairwise_singleton _ _) goOn resolvedBehind
  rw [outputType_eq_lastOutput, ← types_eq, lastOutput_cons] at isTable
  rw [isTable, List.nil_append] at gives
  cases gives with
  | @rows tableStep member makesRows =>
      have memberRest : tableStep ∈ rest := by
        refine (List.mem_cons.mp member).resolve_left ?_
        rintro rfl
        cases begins with
        | search | surrounding => exact makesRows
      cases goOn tableStep memberRest with
      | rex | filter => exact makesRows.elim
      | table table =>
          -- What stands behind the table is admitted by it, and only filters are.
          obtain ⟨middle, behind, rfl⟩ := List.append_of_mem memberRest
          rw [List.nil_append, ← List.cons_append, List.pairwise_append] at admits
          have content : ∀ step ∈ behind, ¬step.AsksForEvents := fun step later =>
            List.rel_of_pairwise_cons admits.2.1 later trivial
          obtain ⟨filters, rfl⟩ := Step.exists_filters (fun step later =>
            goOn step (List.mem_append_right _ (List.mem_cons_of_mem _ later))) content
          exact ⟨first, middle, table, filters, steps_eq, begins, fun step earlier =>
            goOn step (List.mem_append_left _ earlier)⟩

theorem columns_eq {front : List Step} {table : TableStep} {filters : List WhereStep}
    (steps_eq : pipeline.steps = front ++ .table table :: filters.map .filter)
    (isTable : pipeline.outputType = .table) : pipeline.columns = table.columns := by
  have undeclared : (filters.map Step.filter).reverse.findSome? (·.declaration.columns) = none := by
    rw [List.findSome?_eq_none_iff]
    intro step member
    obtain ⟨filter, -, rfl⟩ := List.mem_map.mp (List.mem_reverse.mp member)
    rfl
  rw [columns, if_pos isTable, steps_eq, List.reverse_append, List.reverse_cons,
    List.findSome?_append, List.findSome?_append, undeclared]
  rfl

/-! ## The rows of a run -/

theorem rows_transformAll_filters (filters : List WhereStep) (batch : Batch) :
    (Step.transformAll (filters.map .filter) batch).rows =
      batch.rows.filter fun row => filters.all fun filter => filter.keepsRow row := by
  induction filters generalizing batch with
  | nil => exact (List.filter_true _).symm
  | cons filter filters inductionHypothesis =>
      refine (inductionHypothesis _).trans ?_
      change (batch.rows.filter filter.keepsRow).filter _ = _
      rw [List.filter_filter]
      simp only [List.all_cons, Bool.and_comm]

/-- The table makes a row of each event that the steps in front of it emit by themselves, and the
filters behind it work on these rows. -/
theorem rows_run_eq {first : Step} {middle : List Step} {table : TableStep}
    {filters : List WhereStep}
    (steps_eq : pipeline.steps = first :: (middle ++ .table table :: filters.map .filter))
    (goOn : ∀ step ∈ middle, step.Continues) (types : List PipeTypes) (sources : Sources)
    (cancelled : Bool) :
    (pipeline.run sources cancelled).rows =
      ((run ⟨first :: middle, types⟩ sources cancelled).events.map table.row).filter fun row =>
        filters.all fun filter => filter.keepsRow row := by
  cases cancelled with
  | true =>
      unfold run
      rw [steps_eq]
      rfl
  | false =>
      have goOnAll : ∀ step ∈ middle ++ .table table :: filters.map .filter, step.Continues := by
        intro step member
        rcases List.mem_append.mp member with earlier | member
        · exact goOn step earlier
        rcases List.mem_cons.mp member with rfl | later
        · exact .table table
        · obtain ⟨filter, -, rfl⟩ := List.mem_map.mp later
          exact .filter filter
      let found := Batch.concat (first.emit sources none).batches
      have rows_eq : (pipeline.run sources false).rows =
          (Step.transformAll (middle ++ .table table :: filters.map .filter) found).rows := by
        rw [run_eq steps_eq goOnAll, ← concat_passAll goOnAll]
        rfl
      have events_eq : (run ⟨first :: middle, types⟩ sources false).events =
          (Step.transformAll middle found).events := by
        rw [run_eq rfl goOn, ← concat_passAll goOn]
        rfl
      rw [rows_eq, events_eq, Step.transformAll, List.foldl_append, List.foldl_cons]
      exact rows_transformAll_filters filters _

end Pipeline

open Pipeline

/-- The rows of a query that gives a table.  Each row holds all columns of the pipeline, of which
there are some, and nothing else; in each of them it shows the field of its event.  There is one row
for each event that the steps in front of the table emit, in their order, before the filters behind
the table choose among the rows.  What a job for the query has stored are such rows, whatever fails
while it runs and whatever happens later.  A query that gives events has no columns. -/
theorem rows_show_their_events_in_all_columns {query : String} {range : TimeRange}
    {pipeline : Pipeline} (compiled : compile .builtin query range = .ok pipeline) :
    (pipeline.outputType = .events → pipeline.columns = []) ∧
    (pipeline.outputType = .table → pipeline.columns ≠ [] ∧
      ∃ (front : List Step) (table : TableStep) (filters : List WhereStep),
        pipeline.steps = front ++ .table table :: filters.map .filter ∧
        let upstream : Pipeline := ⟨front, pipeline.types.take front.length⟩
        (∀ sources cancelled, ∃ made,
          List.Forall₂ (Fields.Shows pipeline.columns) made
            (upstream.run sources cancelled).events ∧
          (pipeline.run sources cancelled).rows = made.filter fun row =>
            filters.all fun filter => filter.conditions.all fun condition =>
              row.value condition.field == condition.value) ∧
        ∀ engine outages id settled history rows,
          JobEngine.startThrough outages engine query range = (.ok id, settled) →
          (settled.performAllThrough history).jobs.store.rows id 0 none = .ok rows →
          ∀ row ∈ rows, ∃ event ∈ (upstream.run ⟨engine.events, engine.configs⟩ false).events,
            Fields.Shows pipeline.columns row.values event) := by
  constructor
  · intro isEvents
    rw [columns, isEvents]
    exact if_neg (by decide)
  intro isTable
  obtain ⟨first, middle, table, filters, steps_eq, -, goOn⟩ :=
    exists_table_of_outputType compiled isTable
  have split : pipeline.steps = (first :: middle) ++ .table table :: filters.map .filter := steps_eq
  have columns_eq := columns_eq split isTable
  have rows_eq := rows_run_eq steps_eq goOn (pipeline.types.take (first :: middle).length)
  refine ⟨?_, first :: middle, table, filters, split, ?_, ?_⟩
  · rw [columns_eq]
    refine columns_ne_nil_of_mem_steps compiled ?_
    rw [split]
    exact List.mem_append_right _ List.mem_cons_self
  · intro sources cancelled
    refine ⟨_, ?_, rows_eq sources cancelled⟩
    rw [List.forall₂_map_left_iff, List.forall₂_same, columns_eq]
    exact fun event _ => table.shows_row event
  · intro engine outages id settled history rows started shown row member
    obtain ⟨again, record, kept, counted, compiledAgain, found, -, salvages⟩ :=
      JobEngine.exists_salvages_of_startThrough started history
    obtain rfl : again = pipeline := Except.ok.inj (compiledAgain.symm.trans compiled)
    rw [JobStore.rows_eq_ok found, JobRecord.orderedRows_of_pairwise salvages.pairwise_rows]
      at shown
    obtain rfl := Except.ok.inj shown
    have emitted : row.values ∈ (again.run ⟨engine.events, engine.configs⟩ false).rows := by
      rw [← Deposit.map_values_numberRows 0 (Emission.rows _)]
      exact List.mem_map_of_mem (salvages.rows_sublist_rows.subset member)
    rw [rows_eq] at emitted
    obtain ⟨event, reached, values_eq⟩ := List.mem_map.mp (List.mem_filter.mp emitted).1
    refine ⟨event, reached, ?_⟩
    rw [← values_eq, columns_eq]
    exact table.shows_row event

/-- A column named twice and one that no event has: both events become rows, and the filter behind
the table keeps one of them. -/
theorem filtered_rows_keep_their_columns :
    let type : FileType :=
      { name := defaultTypeName, timeLayout := "", parser := .json defaultDelimiter "_time" }
    let sources : Sources :=
      { events := { added := [⟨"", .epoch, "a", "s"⟩, ⟨"", .epoch, "b", "s"⟩] }
        configs := .constant
          { files := [{ fileName := "s" }], fileTypes := .ofList [(type.name, type)] } }
    ∃ pipeline, compile .builtin "| table host, note, host | where host=a" {} = .ok pipeline ∧
      pipeline.outputType = .table ∧ pipeline.columns ≠ [] ∧
      (∃ made events, List.Forall₂ (Fields.Shows ["host", "note", "host"]) made events ∧
        (pipeline.run sources false).rows.Sublist made) ∧
      (pipeline.run sources false).rows.map (·.toList) = [[("host", "a"), ("note", "")]] := by
  intro type sources
  have evaluated : (compile .builtin "| table host, note, host | where host=a" {}).map
      (fun pipeline => (pipeline.outputType, pipeline.columns,
        (pipeline.run sources false).rows.map (·.toList))) =
      .ok (.table, ["host", "note", "host"], [[("host", "a"), ("note", "")]]) := by
    cbv
  obtain ⟨pipeline, compiled, shown⟩ := map_eq_ok_iff.mp evaluated
  obtain ⟨isTable, others⟩ := Prod.mk.inj shown
  obtain ⟨columns_eq, rows_eq⟩ := Prod.mk.inj others
  obtain ⟨notEmpty, front, table, filters, -, correspond, -⟩ :=
    (rows_show_their_events_in_all_columns compiled).2 isTable
  obtain ⟨made, paired, kept_eq⟩ := correspond sources false
  rw [columns_eq] at paired
  refine ⟨pipeline, compiled, isTable, notEmpty, ⟨made, _, paired, ?_⟩, rows_eq⟩
  rw [kept_eq]
  exact List.filter_sublist

end LogQuery
