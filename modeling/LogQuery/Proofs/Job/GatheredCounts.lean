import LogQuery.Proofs.Job.Histogram
import LogQuery.Proofs.Job.Records
import LogQuery.Proofs.Job.Results

/-!
# Counts that are gathered in batches

What counts do to a histogram depends on two things only: which values they name, and what they come
to for each of them.  Both are the same however a sequence is cut, whichever batch comes first and
in whatever order the counts of a batch are written.  The two questions about the statistics of a
job agree because no histogram of a store holds a field without values.
-/

namespace LogQuery

open Std

namespace FieldCount

/-- Whether one of some counts is for this value. -/
def Names (counts : List FieldCount) (field value : String) : Prop :=
  ∃ count ∈ counts, count.field = field ∧ count.value = value

variable {counts others : List FieldCount} {field value : String}

theorem names_append :
    Names (counts ++ others) field value ↔ Names counts field value ∨ Names others field value := by
  simp only [Names, List.mem_append, or_and_right, exists_or]

theorem Names.perm (perm : counts.Perm others) :
    Names counts field value ↔ Names others field value :=
  exists_congr fun _ => and_congr_left' perm.mem_iff

theorem total_append (counts others : List FieldCount) (field value : String) :
    total (counts ++ others) field value =
      total counts field value + total others field value := by
  rw [total, List.filter_append, List.map_append, List.sum_append]
  rfl

theorem total_perm (perm : counts.Perm others) (field value : String) :
    total counts field value = total others field value :=
  ((perm.filter _).map _).sum_eq

end FieldCount

namespace Histogram

variable {histogram first second : Histogram} {field value : String}

/-! ## Which fields and values a histogram holds -/

theorem mem_add {added : FieldCount} :
    field ∈ histogram.add added ↔ added.field = field ∨ field ∈ histogram := by
  rw [add, ExtTreeMap.mem_insert, LawfulEqCmp.compare_eq_iff_eq]

theorem mem_valuesOf_add {added : FieldCount} :
    value ∈ (histogram.add added).valuesOf field ↔
      (added.field = field ∧ added.value = value) ∨ value ∈ histogram.valuesOf field := by
  rw [valuesOf_add]
  by_cases same : added.field = field
  · rw [if_pos same, ExtTreeMap.mem_insert, LawfulEqCmp.compare_eq_iff_eq, and_iff_right same]
  · rw [if_neg same, or_iff_right fun holds => same holds.1]

theorem mem_addAll {counts : List FieldCount} :
    field ∈ histogram.addAll counts ↔
      (∃ value, FieldCount.Names counts field value) ∨ field ∈ histogram := by
  unfold addAll
  induction counts generalizing histogram with
  | nil => simp [FieldCount.Names]
  | cons added counts inductionHypothesis =>
      rw [List.foldl_cons, inductionHypothesis, mem_add, ← or_assoc]
      refine or_congr_left ?_
      simp only [FieldCount.Names, List.mem_cons, exists_eq_or_imp, exists_or, exists_eq_right']
      rw [or_comm]

theorem mem_valuesOf_addAll {counts : List FieldCount} :
    value ∈ (histogram.addAll counts).valuesOf field ↔
      FieldCount.Names counts field value ∨ value ∈ histogram.valuesOf field := by
  unfold addAll
  induction counts generalizing histogram with
  | nil => simp [FieldCount.Names]
  | cons added counts inductionHypothesis =>
      rw [List.foldl_cons, inductionHypothesis, mem_valuesOf_add, ← or_assoc]
      refine or_congr_left ?_
      simp only [FieldCount.Names, List.mem_cons, exists_eq_or_imp]
      rw [or_comm]

theorem getElem?_valuesOf (histogram : Histogram) (field value : String) :
    (histogram.valuesOf field)[value]? =
      if value ∈ histogram.valuesOf field then some (histogram.count field value) else none := by
  by_cases held : value ∈ histogram.valuesOf field
  · rw [if_pos held, count, ExtTreeMap.getElem?_eq_some_getD held]
  · rw [if_neg held, ExtTreeMap.getElem?_eq_none held]

theorem getElem?_eq_valuesOf (histogram : Histogram) (field : String) :
    histogram[field]? = if field ∈ histogram then some (histogram.valuesOf field) else none := by
  by_cases held : field ∈ histogram
  · rw [if_pos held, valuesOf, ExtTreeMap.getElem?_eq_some_getElem held, Option.getD_some]
  · rw [if_neg held, ExtTreeMap.getElem?_eq_none held]

/-- Histograms are equal if they hold the same fields and values with the same counts. -/
theorem eq_of_count_eq (fields : ∀ field, field ∈ first ↔ field ∈ second)
    (values : ∀ field value, value ∈ first.valuesOf field ↔ value ∈ second.valuesOf field)
    (counts : ∀ field value, first.count field value = second.count field value) :
    first = second := by
  refine ExtTreeMap.ext_getElem? fun field => ?_
  have valuesOf_eq : first.valuesOf field = second.valuesOf field := by
    refine ExtTreeMap.ext_getElem? fun value => ?_
    rw [getElem?_valuesOf, getElem?_valuesOf, counts]
    exact if_congr (values field value) rfl rfl
  rw [getElem?_eq_valuesOf, getElem?_eq_valuesOf, valuesOf_eq]
  exact if_congr (fields field) rfl rfl

/-- Counts that name the same values and come to the same for each have the same effect. -/
theorem addAll_eq_addAll {counts others : List FieldCount}
    (names : ∀ field value,
      FieldCount.Names counts field value ↔ FieldCount.Names others field value)
    (totals : ∀ field value,
      FieldCount.total counts field value = FieldCount.total others field value)
    (histogram : Histogram) : histogram.addAll counts = histogram.addAll others := by
  apply eq_of_count_eq
  · intro field
    simp only [mem_addAll, names]
  · intro field value
    rw [mem_valuesOf_addAll, mem_valuesOf_addAll, names]
  · intro field value
    rw [count_addAll, count_addAll, totals]

/-! ## What is gathered from a sequence -/

theorem mem_toCounts_iff {added : FieldCount} :
    added ∈ histogram.toCounts ↔
      (histogram.valuesOf added.field)[added.value]? = some added.occurrences := by
  obtain ⟨field, value, occurrences⟩ := added
  simp only [toCounts, List.mem_flatMap, List.mem_map, Prod.exists, FieldCount.mk.injEq,
    ExtTreeMap.mem_toList_iff_getElem?_eq_some]
  constructor
  · rintro ⟨field, values, stored, value, occurrences, held, rfl, rfl, rfl⟩
    rw [valuesOf, stored]
    exact held
  · intro held
    cases stored : histogram[field]? with
    | none => simp [valuesOf, stored] at held
    | some values =>
        rw [valuesOf, stored] at held
        exact ⟨field, values, stored, value, occurrences, held, rfl, rfl, rfl⟩

theorem counts_ofFields (maps : List Fields) : (ofFields maps).Counts maps :=
  ⟨isPositive_ofFields maps, fun field value => count_ofFields field value maps⟩

theorem countP_ne_zero_iff {maps : List Fields} :
    (maps.countP fun fields => fields[field]? = some value) ≠ 0 ↔
      ∃ fields ∈ maps, fields[field]? = some value := by
  rw [ne_eq, List.countP_eq_zero]
  simp

/-- The counts of a sequence are for the values that occur in it. -/
theorem names_toCounts_ofFields {maps : List Fields} :
    FieldCount.Names (ofFields maps).toCounts field value ↔
      ∃ fields ∈ maps, fields[field]? = some value := by
  have held := (counts_ofFields maps).getElem?_valuesOf field value
  dsimp only at held
  rw [← countP_ne_zero_iff]
  constructor
  · rintro ⟨added, member, rfl, rfl⟩ absent
    rw [mem_toCounts_iff.mp member, if_pos absent] at held
    cases held
  · intro present
    rw [if_neg present] at held
    exact ⟨⟨field, value, _⟩, mem_toCounts_iff.mpr held, rfl, rfl⟩

theorem total_toCounts_ofFields (maps : List Fields) (field value : String) :
    FieldCount.total (ofFields maps).toCounts field value =
      (maps.countP fun fields => fields[field]? = some value : Nat) := by
  rw [total_toCounts, count_ofFields]

/-- Counts for each of some batches; those of a batch come in any order. -/
def GatheredFrom (written : List (List FieldCount)) (batches : List (List Fields)) : Prop :=
  List.Forall₂ (fun counts batch => counts.Perm (ofFields batch).toCounts) written batches

namespace GatheredFrom

variable {written : List (List FieldCount)} {batches : List (List Fields)}

theorem names_flatten (gathered : GatheredFrom written batches) :
    FieldCount.Names written.flatten field value ↔
      ∃ fields ∈ batches.flatten, fields[field]? = some value := by
  induction gathered with
  | nil => simp [FieldCount.Names]
  | cons perm _ inductionHypothesis =>
      rw [List.flatten_cons, List.flatten_cons, FieldCount.names_append, inductionHypothesis,
        FieldCount.Names.perm perm, names_toCounts_ofFields]
      simp only [List.mem_append, or_and_right, exists_or]

theorem total_flatten (gathered : GatheredFrom written batches) (field value : String) :
    FieldCount.total written.flatten field value =
      (batches.flatten.countP fun fields => fields[field]? = some value : Nat) := by
  induction gathered with
  | nil => rfl
  | cons perm _ inductionHypothesis =>
      rw [List.flatten_cons, List.flatten_cons, FieldCount.total_append, inductionHypothesis,
        FieldCount.total_perm perm, total_toCounts_ofFields, List.countP_append, Int.natCast_add]

/-- What is gathered in batches adds up to what is gathered at once. -/
theorem addAll_flatten (gathered : GatheredFrom written batches) {maps : List Fields}
    (perm : batches.flatten.Perm maps) (histogram : Histogram) :
    histogram.addAll written.flatten = histogram.addAll (ofFields maps).toCounts := by
  apply addAll_eq_addAll
  · intro field value
    rw [gathered.names_flatten, names_toCounts_ofFields]
    exact exists_congr fun _ => and_congr_left' perm.mem_iff
  · intro field value
    rw [gathered.total_flatten, total_toCounts_ofFields, perm.countP_eq]

end GatheredFrom

/-- What the counts of a sequence add to each value of a field. -/
theorem getElem?_valuesOf_addAll_ofFields (histogram : Histogram) (maps : List Fields)
    (field value : String) :
    let occurrences := maps.countP fun fields => fields[field]? = some value
    ((histogram.addAll (ofFields maps).toCounts).valuesOf field)[value]? =
      if occurrences = 0 then (histogram.valuesOf field)[value]?
      else some ((histogram.valuesOf field).getD value 0 + occurrences) := by
  intro occurrences
  have counted : (histogram.addAll (ofFields maps).toCounts).count field value =
      histogram.count field value + occurrences := by
    rw [count_addAll, total_toCounts_ofFields]
  have held : value ∈ (histogram.addAll (ofFields maps).toCounts).valuesOf field ↔
      occurrences ≠ 0 ∨ value ∈ histogram.valuesOf field := by
    rw [mem_valuesOf_addAll, names_toCounts_ofFields, countP_ne_zero_iff]
  rw [getElem?_valuesOf, counted]
  by_cases absent : occurrences = 0
  · rw [if_pos absent, getElem?_valuesOf, absent, Int.natCast_zero, Int.add_zero]
    exact if_congr (held.trans (or_iff_right fun present => present absent)) rfl rfl
  · rw [if_neg absent, if_pos (held.mpr (.inl absent))]
    rfl

/-! ## Fields and their numbers of values -/

/-- Every field that is held has a value. -/
def HasNoEmptyField (histogram : Histogram) : Prop :=
  ∀ field ∈ histogram, ∃ value, value ∈ histogram.valuesOf field

theorem hasNoEmptyField_empty : HasNoEmptyField ∅ :=
  fun _ member => absurd member ExtTreeMap.not_mem_empty

theorem HasNoEmptyField.addAll (tidy : histogram.HasNoEmptyField) (counts : List FieldCount) :
    (histogram.addAll counts).HasNoEmptyField := by
  intro field member
  rcases mem_addAll.mp member with ⟨value, names⟩ | before
  · exact ⟨value, mem_valuesOf_addAll.mpr (.inl names)⟩
  · obtain ⟨value, held⟩ := tidy field before
    exact ⟨value, mem_valuesOf_addAll.mpr (.inr held)⟩

/-- No field is listed twice. -/
theorem nodup_map_fst_fieldOccurrences (histogram : Histogram) :
    (histogram.fieldOccurrences.map Prod.fst).Nodup := by
  have fields_eq : histogram.fieldOccurrences.map Prod.fst = histogram.keys := by
    rw [fieldOccurrences, List.map_map, ← ExtTreeMap.map_fst_toList_eq_keys]
    rfl
  rw [fields_eq]
  exact ExtTreeMap.nodup_keys

/-- The fields with values are listed with the number of their values. -/
theorem HasNoEmptyField.mem_fieldOccurrences_iff (tidy : histogram.HasNoEmptyField)
    {number : Nat} :
    (field, number) ∈ histogram.fieldOccurrences ↔
      histogram.valuesOf field ≠ ∅ ∧ number = (histogram.valuesOf field).size := by
  have listed : (field, number) ∈ histogram.fieldOccurrences ↔
      ∃ values, histogram[field]? = some values ∧ values.size = number := by
    simp only [fieldOccurrences, List.mem_map, Prod.exists, Prod.mk.injEq,
      ExtTreeMap.mem_toList_iff_getElem?_eq_some]
    exact ⟨fun ⟨_, values, stored, same, size_eq⟩ => ⟨values, same ▸ stored, size_eq⟩,
      fun ⟨values, stored, size_eq⟩ => ⟨field, values, stored, rfl, size_eq⟩⟩
  rw [listed]
  constructor
  · rintro ⟨values, stored, rfl⟩
    have valuesOf_eq : histogram.valuesOf field = values := by rw [valuesOf, stored]; rfl
    have member : field ∈ histogram := by
      rw [ExtTreeMap.mem_iff_isSome_getElem?, stored]
      rfl
    obtain ⟨value, held⟩ := tidy field member
    refine ⟨fun isEmpty => ?_, by rw [valuesOf_eq]⟩
    rw [isEmpty] at held
    exact ExtTreeMap.not_mem_empty held
  · rintro ⟨nonempty, rfl⟩
    cases stored : histogram[field]? with
    | none => exact absurd (by rw [valuesOf, stored]; rfl) nonempty
    | some values => exact ⟨values, rfl, by rw [valuesOf, stored]; rfl⟩

end Histogram

namespace JobStore

/-- Add to the counts of values several times. -/
def addEachCounts (store : JobStore) (id : Int) (written : List (List FieldCount)) :
    Except StoreError JobStore :=
  written.foldlM (fun store counts => store.addCounts id counts) store

variable {store : JobStore} {id : Int} {record : JobRecord}

theorem fieldOccurrences_eq_ok (found : store.record? id = some record) :
    store.fieldOccurrences id = .ok record.histogram.fieldOccurrences := by
  unfold fieldOccurrences
  rw [record_eq_ok_iff.mpr found]
  rfl

theorem addCounts_of_running (found : store.record? id = some record)
    (running : record.state = .running) (counts : List FieldCount) :
    ∃ changed, store.addCounts id counts = .ok changed ∧
      changed.record? id = some { record with histogram := record.histogram.addAll counts } ∧
      changed.records = store.records.set (id - 1).toNat
        { record with histogram := record.histogram.addAll counts } := by
  obtain ⟨changed, made⟩ : ∃ changed, store.addCounts id counts = .ok changed :=
    ⟨_, change_eq_ok_iff.mpr ⟨record, found, running, rfl⟩⟩
  refine ⟨changed, made, ?_, ?_⟩
  · refine (record?_of_change made id).trans ?_
    rw [if_pos rfl, found]
    rfl
  · obtain ⟨same, foundToo, -, rfl⟩ := change_eq_ok_iff.mp made
    obtain rfl := Option.some.inj (found.symm.trans foundToo)
    rfl

/-- What is added to a running job several times can be added at once. -/
theorem addEachCounts_of_running (found : store.record? id = some record)
    (running : record.state = .running) (written : List (List FieldCount)) :
    store.addEachCounts id written = .ok
      { records := store.records.set (id - 1).toNat
          { record with histogram := record.histogram.addAll written.flatten } } := by
  induction written generalizing store record with
  | nil =>
      obtain ⟨inside, stored⟩ := List.getElem?_eq_some_iff.mp (record?_eq_some_iff.mp found).2
      have unchanged : store.records.set (id - 1).toNat record = store.records :=
        stored ▸ List.set_getElem_self inside
      exact congrArg Except.ok (congrArg JobStore.mk unchanged.symm)
  | cons counts written inductionHypothesis =>
      obtain ⟨changed, added, foundBehind, records_eq⟩ := addCounts_of_running found running counts
      have behind := inductionHypothesis foundBehind running
      rw [records_eq, List.set_set] at behind
      rw [addEachCounts, List.foldlM_cons, added, List.flatten_cons, Histogram.addAll,
        List.foldl_append]
      exact behind

/-- Write the counts of a sequence to a running job, batch by batch.  However the sequence is cut,
whichever batch comes first and in whatever order the counts of a batch come, the store is then the
same as when the whole sequence is counted at once: every value has gained the number of members
that hold it, and a value that none holds is as it was.

Whatever has been written to a store, the fields that a job lists are those that have values there,
each once and with the number of its different values. -/
theorem gathered_counts_add_up :
    (∀ (store : JobStore) (id : Int) (record : JobRecord) (maps : List Fields)
        (cuts batches : List (List Fields)) (written : List (List FieldCount)),
      store.record? id = some record → record.state = .running → cuts.flatten = maps →
        batches.Perm cuts → Histogram.GatheredFrom written batches →
          ∃ changed, store.addEachCounts id written = .ok changed ∧
            store.addCounts id (Histogram.ofFields maps).toCounts = .ok changed ∧
            ∀ field, ∃ before behind, store.fieldValues id field = .ok before ∧
              changed.fieldValues id field = .ok behind ∧
              ∀ value, let occurrences := maps.countP fun fields => fields[field]? = some value
                behind[value]? =
                  if occurrences = 0 then before[value]?
                  else some (before.getD value 0 + occurrences)) ∧
      ∀ (calls : List StoreCall) (id : Int) (record : JobRecord),
        let store := empty.serveAll calls
        store.record? id = some record →
          ∃ occurrences, store.fieldOccurrences id = .ok occurrences ∧
            (occurrences.map Prod.fst).Nodup ∧
            ∀ field, ∃ values, store.fieldValues id field = .ok values ∧
              ∀ number, (field, number) ∈ occurrences ↔ values ≠ ∅ ∧ number = values.size := by
  constructor
  · intro store id record maps cuts batches written found running cut order gathered
    have perm : batches.flatten.Perm maps := cut ▸ order.flatten
    obtain ⟨changed, added, foundBehind, records_eq⟩ :=
      addCounts_of_running found running (Histogram.ofFields maps).toCounts
    refine ⟨changed, ?_, added, ?_⟩
    · rw [addEachCounts_of_running found running, gathered.addAll_flatten perm, ← records_eq]
    · intro field
      exact ⟨_, _, fieldValues_eq_ok found field, fieldValues_eq_ok foundBehind field,
        Histogram.getElem?_valuesOf_addAll_ofFields record.histogram maps field⟩
  · intro calls id record store found
    have each : Each (fun record => record.histogram.HasNoEmptyField) store := by
      refine each_serveAll ?_ ?_ calls
      · intro job
        exact Histogram.hasNoEmptyField_empty
      · intro write record tidy
        cases write with
        | addCounts other counts => exact tidy.addAll counts
        | insert | addResults | addRows | setState => exact tidy
    have tidy := each id record found
    exact ⟨_, fieldOccurrences_eq_ok found, record.histogram.nodup_map_fst_fieldOccurrences,
      fun field => ⟨_, fieldValues_eq_ok found field, fun _ => tidy.mem_fieldOccurrences_iff⟩⟩

/-- Of three rows the last one is written first. -/
theorem later_batch_may_be_written_first :
    let rows : List Fields :=
      [.ofPairs [("host", "a"), ("level", "info")], .ofPairs [("level", "info")],
        .ofPairs [("level", "error")]]
    let job : NewJob := ⟨"", {}, .newestFirst, .table, []⟩
    let store := (empty.insert job).2
    let written := [rows.drop 2, rows.take 2].map fun batch => (Histogram.ofFields batch).toCounts
    ∃ changed values, store.addEachCounts 1 written = .ok changed ∧
      store.addCounts 1 (Histogram.ofFields rows).toCounts = .ok changed ∧
      changed.fieldValues 1 "level" = .ok values ∧
      values["info"]? = some 2 ∧ values["error"]? = some 1 ∧ values["a"]? = none := by
  intro rows job store written
  have order : [rows.drop 2, rows.take 2].Perm [rows.take 2, rows.drop 2] := .swap _ _ _
  obtain ⟨changed, added, addedAtOnce, stored⟩ :=
    gathered_counts_add_up.1 store 1 { job } rows _ _ written rfl rfl rfl order
      (.cons .rfl (.cons .rfl .nil))
  obtain ⟨before, values, none_eq, values_eq, counted⟩ := stored "level"
  obtain rfl := Except.ok.inj none_eq
  refine ⟨changed, values, added, addedAtOnce, values_eq, ?_, ?_, ?_⟩
  · rw [counted]
    cbv
  · rw [counted]
    cbv
  · rw [counted]
    cbv

end JobStore

end LogQuery
