import LogQuery.Proofs.Job.TableRows
import LogQuery.Proofs.Pipeline.Composition
import LogQuery.Proofs.Query.Search.Pushdown

/-!
# Fields that filters and tables read

A filter looks a field up among those that were found in an event.  A table does the same, except
for the text, the source and the host, which it takes from the event itself.  A filter may change
places with a table behind it exactly where the two read the same.
-/

namespace LogQuery

open LogQuery.Config LogQuery.Extraction LogQuery.Text

/-! ## Fields that are set -/

theorem Fields.getElem?_foldl_insert_of_notMem {α : Type} (key value : α → String) {name : String}
    {items : List α} (absent : name ∉ items.map key) (fields : Fields) :
    (items.foldl (fun fields item => fields.insert (key item) (value item)) fields)[name]? =
      fields[name]? := by
  rw [getElem?_foldl_insert, List.lookup_eq_none_iff.mpr, Option.none_or]
  intro pair set
  obtain ⟨item, member, rfl⟩ := List.mem_map.mp (List.mem_reverse.mp set)
  refine bne_iff_ne.mpr ?_
  rintro rfl
  exact absent (List.mem_map_of_mem member)

theorem Fields.getElem?_override_of_notMem {fields others : Fields} {name : String}
    (absent : name ∉ others) : (fields.override others)[name]? = fields[name]? := by
  rw [override, Std.ExtTreeMap.foldl_eq_foldl_toList]
  refine getElem?_foldl_insert_of_notMem Prod.fst Prod.snd ?_ fields
  rwa [Std.ExtTreeMap.map_fst_toList_eq_keys, Std.ExtTreeMap.mem_keys]

/-- An expression whose groups all have names finds no fields of other names. -/
theorem Extraction.mem_of_mem_fieldsByRegex {regex : Regex} {names : List String}
    (named : regex.groupNames = names.map some) {text name : String}
    (found : name ∈ fieldsByRegex [regex] text) : name ∈ names := by
  by_contra absent
  have notNamed (groups : List (Option String)) :
      name ∉ (names.zip groups).map (·.1) := fun member => by
    obtain ⟨pair, zipped, rfl⟩ := List.mem_map.mp member
    exact absent (List.of_mem_zip zipped).1
  have unchanged (found : List (List (Option String))) (fields : Fields) :
      (found.foldl (addNamed · names ·) fields)[name]? = fields[name]? := by
    induction found generalizing fields with
    | nil => rfl
    | cons groups found inductionHypothesis =>
        rw [List.foldl_cons, inductionHypothesis]
        exact Fields.getElem?_foldl_insert_of_notMem Prod.fst (fun pair => pair.2.getD "")
          (notNamed groups) fields
  have allNamed : regex.groupNames.mapM id = some names := by
    rw [named, List.mapM_map]
    exact List.mapM_pure.trans (congrArg some (List.map_id names))
  rw [← Std.ExtTreeMap.isSome_getElem?_iff_mem] at found
  simp [fieldsByRegex, addMatches, allNamed, unchanged] at found

/-! ## The two readings of an event -/

/-- A filter and a table read the same text in the field. -/
def ExtractedEvent.ReadsAlike (event : ExtractedEvent) (name : String) : Prop :=
  event.fields.value name = (event.value? name).getD ""

namespace ExtractedEvent

variable {event : ExtractedEvent} {name : String}

theorem value?_of_ne (notRaw : name ≠ "_raw") (notSource : name ≠ "source")
    (notHost : name ≠ "host") : event.value? name = event.fields[name]? := by
  rw [value?, if_neg notRaw, if_neg notSource, if_neg notHost]

theorem readsAlike_of_value?_eq (found : event.value? name = event.fields[name]?) :
    event.ReadsAlike name :=
  congrArg (Option.getD · "") found.symm

/-- What the parser of a file finds cannot hide where an event comes from. -/
theorem readsAlike_apply (parser : FileParser) (stored : Event) (notRaw : name ≠ "_raw") :
    (parser.apply stored).ReadsAlike name := by
  refine readsAlike_of_value?_eq ?_
  by_cases isSource : name = "source"
  · subst isSource
    exact (parser.getElem?_fieldsOf_source stored).symm
  by_cases isHost : name = "host"
  · subst isHost
    exact (parser.getElem?_fieldsOf_host stored).symm
  exact value?_of_ne notRaw isSource isHost

end ExtractedEvent

namespace Pipeline

/-- The step may set the field, if an event comes along in which its expression matches. -/
def RexStep.Sets (step : RexStep) (name : String) : Prop :=
  ∃ text, name ∈ fieldsByRegex [step.expression] text

theorem RexStep.getElem?_fields_extend {step : RexStep} {name : String} (unset : ¬step.Sets name)
    (event : ExtractedEvent) : (step.extend event).fields[name]? = event.fields[name]? := by
  unfold extend
  split
  · rfl
  · next text _ =>
      exact Fields.getElem?_override_of_notMem fun member => unset ⟨text, member⟩

theorem RexStep.readsAlike_extend {step : RexStep} {name : String} (unset : ¬step.Sets name)
    {event : ExtractedEvent} (alike : event.ReadsAlike name) :
    (step.extend event).ReadsAlike name := by
  have sameValue : (step.extend event).value? name = event.value? name := by
    have sameEvent := step.toEvent_extend event
    simp only [ExtractedEvent.value?, step.getElem?_fields_extend unset, sameEvent]
  unfold ExtractedEvent.ReadsAlike Fields.value at alike ⊢
  rw [step.getElem?_fields_extend unset, sameValue]
  exact alike

theorem SearchStep.exists_apply_eq_of_mem_scan {step : SearchStep} {received : Option Nat}
    {pages : List (List Event)} {configs : ConfigSource} {event : ExtractedEvent}
    (emitted : event ∈ (step.scan received pages configs).events) :
    ∃ (parser : FileParser) (stored : Event), event = parser.apply stored := by
  induction pages generalizing received configs with
  | nil => cases emitted
  | cons page pages inductionHypothesis =>
      rw [scan] at emitted
      split at emitted
      · cases emitted
      · next config left _ =>
          dsimp only at emitted
          split at emitted
          · exact inductionHypothesis emitted
          · split at emitted
            · cases emitted
            · rw [Emission.events_prepend, List.mem_append] at emitted
              rcases emitted with onPage | later
              · obtain ⟨stored, -, selected⟩ := List.mem_filterMap.mp onPage
                obtain ⟨-, parser, -, -, rfl⟩ := select?_eq_some_iff.mp selected
                exact ⟨parser, stored, rfl⟩
              · exact inductionHypothesis later

/-- Every event that a step emits has been read by the parser of its file. -/
theorem Step.exists_apply_eq_of_mem_emit {step : Step} {sources : Sources} {received : Option Nat}
    {event : ExtractedEvent} (emitted : event ∈ (step.emit sources received).events) :
    ∃ (parser : FileParser) (stored : Event), event = parser.apply stored := by
  cases step with
  | search step => exact SearchStep.exists_apply_eq_of_mem_scan emitted
  | surrounding step =>
      change event ∈ (step.emit sources received).events at emitted
      unfold SurroundingStep.emit at emitted
      dsimp only at emitted
      split at emitted
      · cases emitted
      · split at emitted
        · cases emitted
        · split at emitted
          · cases emitted
          · rw [Emission.events_prepend, Emission.events_nothing, List.append_nil] at emitted
            obtain ⟨stored, -, parsed⟩ := List.mem_filterMap.mp emitted
            obtain ⟨parser, -, rfl⟩ := Option.map_eq_some_iff.mp parsed
            exact ⟨parser, stored, rfl⟩
  | rex step | filter step | table step | declared declaration => cases emitted

/-- So does every event behind steps that do not set the field anew. -/
theorem Step.Continues.readsAlike_transform {step : Step} (continues : step.Continues)
    {name : String} (unset : ∀ rex, step = .rex rex → ¬rex.Sets name) {batch : Batch}
    (alike : ∀ event ∈ batch.events, event.ReadsAlike name) :
    ∀ event ∈ (step.transform batch).events, event.ReadsAlike name := by
  intro event member
  cases continues with
  | rex step =>
      obtain ⟨before, earlier, rfl⟩ := List.mem_map.mp member
      exact step.readsAlike_extend (unset step rfl) (alike before earlier)
  | filter step => exact alike event (List.mem_filter.mp member).1
  | table step => cases member

theorem Step.readsAlike_transformAll {steps : List Step} (goOn : ∀ step ∈ steps, step.Continues)
    {name : String} (unset : ∀ rex, .rex rex ∈ steps → ¬rex.Sets name) {batch : Batch}
    (alike : ∀ event ∈ batch.events, event.ReadsAlike name) :
    ∀ event ∈ (transformAll steps batch).events, event.ReadsAlike name := by
  induction steps generalizing batch with
  | nil => exact alike
  | cons step steps inductionHypothesis =>
      obtain ⟨continues, othersGoOn⟩ := List.forall_mem_cons.mp goOn
      refine inductionHypothesis othersGoOn
        (fun rex later => unset rex (List.mem_cons_of_mem step later)) ?_
      refine continues.readsAlike_transform (fun rex same => unset rex ?_) alike
      exact same ▸ List.mem_cons_self

/-! ## The two orders -/

theorem TableStep.value_row {table : TableStep} {name : String} (shown : name ∈ table.columns)
    (event : ExtractedEvent) : (table.row event).value name = (event.value? name).getD "" := by
  rw [Fields.value, table.shows_row event name, if_pos shown, Option.getD_some]

/-- Choosing events and choosing their rows is the same for all values only if the choice looks at
what the rows show. -/
theorem forall_map_filter_eq_iff {table : TableStep} {name : String}
    (shown : name ∈ table.columns) (events : List ExtractedEvent) :
    (∀ value, (events.filter fun event => event.fields.value name == value).map table.row =
        (events.map table.row).filter fun row => row.value name == value) ↔
      ∀ event ∈ events, event.ReadsAlike name := by
  constructor
  · intro same event member
    -- The row of the event is among those that show what the filter reads.
    have chosen : table.row event ∈ (events.map table.row).filter fun row =>
        row.value name == event.fields.value name := by
      rw [← same]
      exact List.mem_map_of_mem (List.mem_filter.mpr ⟨member, beq_self_eq_true _⟩)
    have agrees := eq_of_beq (List.mem_filter.mp chosen).2
    exact agrees.symm.trans (table.value_row shown event)
  · intro alike value
    rw [List.filter_map]
    refine congrArg (List.map table.row) (List.filter_congr fun event member => ?_)
    rw [Function.comp_apply, table.value_row shown, alike event member]

variable {between : List Step} {name : String} {columns : List String}

theorem rows_filter_table_eq_iff (lower : lowercase name = name) (value : String)
    (batches : List Batch) :
    let rows (steps : List Step) := (passAll steps batches).flatMap (·.rows)
    let filter : Step := .filter ⟨[⟨name, value⟩]⟩
    let table : TableStep := ⟨columns⟩
    let events := batches.flatMap (·.events)
    rows [filter, .table table] = rows [.table table, filter] ↔
      (events.filter fun event => event.fields.value name == value).map table.row =
        (events.map table.row).filter fun row => row.value name == value := by
  intro rows filter table events
  have rows_eq (steps : List Step) (proceed : ∀ step ∈ steps, step.Continues) :
      rows steps = (Step.transformAll steps (.concat batches)).rows :=
    congrArg Batch.rows (concat_passAll proceed batches)
  have filterContinues : filter.Continues := .filter _
  have tableContinues : (Step.table table).Continues := .table _
  rw [rows_eq [filter, .table table] (by simp [filterContinues, tableContinues]),
    rows_eq [.table table, filter] (by simp [filterContinues, tableContinues])]
  change (events.filter fun event => WhereStep.keepsEvent _ event).map table.row =
    ((events.map table.row).filter fun row => WhereStep.keepsRow _ row) ↔ _
  simp only [WhereStep.keepsEvent, WhereStep.keepsRow, Condition.holdsOfEvent,
    Condition.holdsOfRow, List.all_cons, List.all_nil, Bool.and_true, lower]

/-- Filtering for a value of a field and then making a table gives the rows that one gets the other
way round, whatever the value is, if and only if both steps read the same in every event that comes
to them.  They do for every field but the text, unless an expression on the way has set the source
or the host anew. -/
theorem filter_and_table_commute_iff (goOn : ∀ step ∈ between, step.Continues) (first : Step)
    (sources : Sources) (received : Option Nat) (lower : lowercase name = name)
    (shown : name ∈ columns) :
    let batches := passAll between (first.emit sources received).batches
    let rows (steps : List Step) := (passAll steps batches).flatMap (·.rows)
    let filter (value : String) : Step := .filter ⟨[⟨name, value⟩]⟩
    let table : Step := .table ⟨columns⟩
    let events := batches.flatMap (·.events)
    ((∀ value, rows [filter value, table] = rows [table, filter value]) ↔
        ∀ event ∈ events, event.ReadsAlike name) ∧
      (name ≠ "_raw" →
        (name = "source" ∨ name = "host" → ∀ rex, .rex rex ∈ between → ¬rex.Sets name) →
        ∀ event ∈ events, event.ReadsAlike name) := by
  intro batches rows filter table events
  constructor
  · have shownInTable : name ∈ (⟨columns⟩ : TableStep).columns := shown
    rw [← forall_map_filter_eq_iff shownInTable]
    exact forall_congr' fun value => rows_filter_table_eq_iff lower value batches
  · intro notRaw unset event member
    by_cases special : name = "source" ∨ name = "host"
    · have events_eq : events = (Step.transformAll between
          (.concat (first.emit sources received).batches)).events :=
        congrArg Batch.events (concat_passAll goOn _)
      rw [events_eq] at member
      refine Step.readsAlike_transformAll goOn (unset special) ?_ event member
      intro found emitted
      obtain ⟨parser, stored, rfl⟩ := Step.exists_apply_eq_of_mem_emit emitted
      exact ExtractedEvent.readsAlike_apply parser stored notRaw
    · rw [not_or] at special
      exact ExtractedEvent.readsAlike_of_value?_eq
        (ExtractedEvent.value?_of_ne notRaw special.1 special.2)

/-- A level is found in two events; among their hosts one may choose before or behind the table. -/
theorem hosts_are_chosen_before_or_behind_a_table :
    let type : FileType :=
      { name := defaultTypeName, timeLayout := "", parser := .json defaultDelimiter "_time" }
    let sources : Sources :=
      { events := { added := [⟨"warn", .epoch, "a", "s"⟩, ⟨"info", .epoch, "b", "s"⟩] }
        configs := .constant
          { files := [{ fileName := "s" }], fileTypes := .ofList [(type.name, type)] } }
    let found := ((Step.search ⟨{}, {}⟩).emit sources none).batches
    let filter : Step := .filter ⟨[⟨"host", "b"⟩]⟩
    let table : Step := .table ⟨["host", "level"]⟩
    ∃ expression, Regex.compile "(?P<level>[a-z]+)" = .ok expression ∧
      let rows (steps : List Step) :=
        (passAll steps (passAll [.rex ⟨"_raw", expression⟩] found)).flatMap (·.rows)
      rows [filter, table] = rows [table, filter] ∧
        (rows [table, filter]).map (·.toList) = [[("host", "b"), ("level", "info")]] := by
  intro type sources found filter table
  have evaluated : (Regex.compile "(?P<level>[a-z]+)").map (fun expression =>
      (expression.groupNames,
        ((passAll [table, filter] (passAll [.rex ⟨"_raw", expression⟩] found)).flatMap
          (·.rows)).map (·.toList))) =
      .ok ([some "level"], [[("host", "b"), ("level", "info")]]) := by
    dsimp only [table, filter, found, sources, type]
    cbv
  obtain ⟨expression, compiled, shown⟩ := map_eq_ok_iff.mp evaluated
  obtain ⟨named, rows_eq⟩ := Prod.mk.inj shown
  have lower : lowercase "host" = "host" := by cbv
  have goOn : ∀ step ∈ [Step.rex ⟨"_raw", expression⟩], step.Continues := by
    simp [Step.Continues.rex]
  have shownInTable : "host" ∈ ["host", "level"] := List.mem_cons_self
  obtain ⟨commute, alike⟩ :=
    filter_and_table_commute_iff goOn (.search ⟨{}, {}⟩) sources none lower shownInTable
  refine ⟨expression, compiled, commute.mpr (alike (by decide) fun _ rex member => ?_) "b", rows_eq⟩
  rintro ⟨text, sets⟩
  obtain rfl : rex = ⟨"_raw", expression⟩ := Step.rex.inj (List.mem_singleton.mp member)
  have namedLevel : expression.groupNames = ["level"].map some := named
  exact absurd (mem_of_mem_fieldsByRegex namedLevel sets) (by decide)

/-- The text of an event is shown in a table, and there it can be chosen by.  A filter in front of
the table does not find it. -/
theorem text_is_not_found_in_front_of_a_table :
    let type : FileType :=
      { name := defaultTypeName, timeLayout := "", parser := .json defaultDelimiter "_time" }
    let sources : Sources :=
      { events := { added := [⟨"x", .epoch, "", "s"⟩] }
        configs := .constant
          { files := [{ fileName := "s" }], fileTypes := .ofList [(type.name, type)] } }
    let rows (query : String) := (compile .builtin query {}).map fun pipeline =>
      (pipeline.run sources false).rows.map (·.toList)
    rows "| where _raw=x | table _raw" = .ok [] ∧
      rows "| table _raw | where _raw=x" = .ok [[("_raw", "x")]] := by
  cbv

end Pipeline

end LogQuery
