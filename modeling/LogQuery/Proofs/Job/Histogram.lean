import LogQuery.Job.Histogram
import Mathlib

/-!
# What a histogram counts

The count of a value under a field is a sum: each addition contributes to the one value that it
names.  Counting the fields of a list therefore gives the number of its members that hold the value,
and the counts of a histogram can be handed on and added elsewhere without changing the sum.
-/

namespace LogQuery

open Std

namespace Fields

variable {β : Type} (map : ExtTreeMap String β compare) (key : String)

/-- A map holds at most one pair under a key. -/
theorem filter_toList_eq :
    map.toList.filter (·.1 = key) = (map[key]?.map (key, ·)).toList := by
  have distinct : map.toList.Nodup := by
    refine ExtTreeMap.distinct_keys_toList.imp ?_
    rintro first second different rfl
    exact different ReflCmp.compare_self
  have member (pair : String × β) :
      pair ∈ map.toList.filter (·.1 = key) ↔ pair.1 = key ∧ map[key]? = some pair.2 := by
    rw [List.mem_filter, decide_eq_true_eq, and_comm]
    refine and_congr_right fun same => ?_
    rw [← same]
    exact ExtTreeMap.mem_toList_iff_getElem?_eq_some
  cases found : map[key]? with
  | none =>
      refine List.eq_nil_iff_forall_not_mem.mpr fun pair stored => ?_
      have absent := ((member pair).mp stored).2
      rw [found] at absent
      cases absent
  | some value =>
      refine List.perm_singleton.mp ?_
      refine (List.perm_ext_iff_of_nodup (distinct.filter _) (List.nodup_singleton _)).mpr ?_
      intro pair
      rw [member, List.mem_singleton, found, Prod.ext_iff, Option.some.injEq, eq_comm (a := value)]

end Fields

/-- How often counts name a value under a field. -/
def FieldCount.total (counts : List FieldCount) (field value : String) : Int :=
  ((counts.filter fun count => count.field = field ∧ count.value = value).map
    (·.occurrences)).sum

namespace FieldCount

variable (field value : String)

theorem total_cons (count : FieldCount) (counts : List FieldCount) :
    total (count :: counts) field value =
      (if count.field = field ∧ count.value = value then count.occurrences else 0) +
        total counts field value := by
  unfold total
  by_cases same : count.field = field ∧ count.value = value
  · rw [List.filter_cons_of_pos (by simpa using same), if_pos same, List.map_cons, List.sum_cons]
  · rw [List.filter_cons_of_neg (by simpa using same), if_neg same, Int.zero_add]

end FieldCount

namespace Histogram

/-- The count of a value under a field. -/
def count (histogram : Histogram) (field value : String) : Int :=
  (histogram.valuesOf field).getD value 0

variable (histogram : Histogram) (field value : String)

@[simp] theorem count_empty : count ∅ field value = 0 := by
  simp [count, valuesOf]

theorem valuesOf_add (added : FieldCount) :
    (histogram.add added).valuesOf field =
      if added.field = field then
        (histogram.valuesOf field).insert added.value
          (histogram.count field added.value + added.occurrences)
      else histogram.valuesOf field := by
  unfold add
  dsimp only
  rw [valuesOf, ExtTreeMap.getElem?_insert]
  by_cases same : added.field = field
  · rw [if_pos (by simp [same]), if_pos same, same]
    rfl
  · rw [if_neg (by simpa using same), if_neg same]
    rfl

theorem count_add (added : FieldCount) :
    (histogram.add added).count field value =
      histogram.count field value +
        if added.field = field ∧ added.value = value then added.occurrences else 0 := by
  rw [count, valuesOf_add]
  by_cases sameField : added.field = field
  · by_cases sameValue : added.value = value
    · simp [sameField, sameValue]
    · rw [if_pos sameField, ExtTreeMap.getD_insert, if_neg (by simpa using sameValue),
        if_neg fun same => sameValue same.2, Int.add_zero]
      rfl
  · rw [if_neg sameField, if_neg fun same => sameField same.1, Int.add_zero]
    rfl

theorem count_addAll (counts : List FieldCount) :
    (histogram.addAll counts).count field value =
      histogram.count field value + FieldCount.total counts field value := by
  unfold addAll
  induction counts generalizing histogram with
  | nil => exact (Int.add_zero _).symm
  | cons added counts inductionHypothesis =>
      rw [List.foldl_cons, inductionHypothesis, count_add, FieldCount.total_cons, Int.add_assoc]

/-- Fields hold one value under each name, so they count once or not at all. -/
theorem total_countsOf (fields : Fields) :
    FieldCount.total (countsOf fields) field value =
      if fields[field]? = some value then 1 else 0 := by
  have selected : (countsOf fields).filter (fun count => count.field = field ∧ count.value = value) =
      (((fields.toList.filter (·.1 = field)).filter (·.2 = value)).map
        fun pair => (⟨pair.1, pair.2, 1⟩ : FieldCount)) := by
    rw [countsOf, List.filter_map, List.filter_filter]
    simp [Function.comp_def, Bool.and_comm]
  rw [FieldCount.total, selected, Fields.filter_toList_eq]
  cases fields[field]? with
  | none => rfl
  | some held =>
      by_cases same : held = value
      · simp [same]
      · simp [same]

/-- The count of a value in a list is the number of its members that hold the value. -/
theorem count_ofFields (maps : List Fields) :
    (ofFields maps).count field value =
      (maps.countP fun fields => fields[field]? = some value : Nat) := by
  have counted (started : Histogram) :
      (maps.foldl (fun histogram fields => addAll histogram (countsOf fields)) started).count
          field value =
        started.count field value +
          (maps.countP fun fields => fields[field]? = some value : Nat) := by
    induction maps generalizing started with
    | nil => exact (Int.add_zero _).symm
    | cons fields maps inductionHypothesis =>
        rw [List.foldl_cons, inductionHypothesis, count_addAll, total_countsOf, List.countP_cons]
        by_cases held : fields[field]? = some value
        · simp [held]
          omega
        · simp [held]
  rw [ofFields, counted, count_empty, Int.zero_add]

/-- The counts that a histogram hands on are its own. -/
theorem total_toCounts :
    FieldCount.total histogram.toCounts field value = histogram.count field value := by
  have selected : histogram.toCounts.filter (fun count => count.field = field ∧ count.value = value) =
      (histogram.toList.filter (·.1 = field)).flatMap fun pair =>
        (pair.2.toList.filter (·.1 = value)).map
          fun counted => (⟨pair.1, counted.1, counted.2⟩ : FieldCount) := by
    unfold toCounts
    induction histogram.toList with
    | nil => rfl
    | cons pair pairs inductionHypothesis =>
        rw [List.flatMap_cons, List.filter_append, inductionHypothesis]
        by_cases same : pair.1 = field
        · rw [List.filter_cons_of_pos (by simpa using same), List.flatMap_cons, List.filter_map]
          simp [Function.comp_def, same]
        · rw [List.filter_cons_of_neg (by simpa using same), List.filter_map]
          simp [Function.comp_def, same]
  rw [FieldCount.total, selected, Fields.filter_toList_eq, count, valuesOf]
  cases histogram[field]? with
  | none => simp
  | some values =>
      simp only [Option.map_some, Option.toList_some, List.flatMap_singleton,
        Fields.filter_toList_eq, Option.getD_some, ExtTreeMap.getD_eq_getD_getElem?]
      cases values[value]? with
      | none => rfl
      | some occurrences => simp

/-- What is held occurs at least once. -/
def IsPositive (histogram : Histogram) : Prop :=
  ∀ (field value : String) (occurrences : Int),
    (histogram.valuesOf field)[value]? = some occurrences → 0 < occurrences

variable {histogram}

theorem isPositive_empty : IsPositive ∅ := by
  intro field value occurrences found
  simp [valuesOf] at found

theorem IsPositive.add (positive : histogram.IsPositive) {added : FieldCount}
    (occurs : 0 < added.occurrences) : (histogram.add added).IsPositive := by
  intro field value occurrences found
  rw [valuesOf_add] at found
  by_cases sameField : added.field = field
  · rw [if_pos sameField, ExtTreeMap.getElem?_insert] at found
    split at found
    · obtain rfl := Option.some.inj found
      rw [count, ExtTreeMap.getD_eq_getD_getElem?]
      cases before : (histogram.valuesOf field)[added.value]? with
      | none => simpa using occurs
      | some previous => exact Int.add_pos (positive field added.value previous before) occurs
    · exact positive field value occurrences found
  · rw [if_neg sameField] at found
    exact positive field value occurrences found

theorem IsPositive.addAll (positive : histogram.IsPositive) {counts : List FieldCount}
    (occur : ∀ added ∈ counts, 0 < added.occurrences) : (histogram.addAll counts).IsPositive := by
  unfold Histogram.addAll
  induction counts generalizing histogram with
  | nil => exact positive
  | cons added counts inductionHypothesis =>
      exact inductionHypothesis (positive.add (occur added List.mem_cons_self))
        fun other member => occur other (List.mem_cons_of_mem added member)

theorem isPositive_ofFields (maps : List Fields) : (ofFields maps).IsPositive := by
  have counted {started : Histogram} (positive : started.IsPositive) :
      (maps.foldl (fun histogram fields => addAll histogram (countsOf fields)) started).IsPositive := by
    induction maps generalizing started with
    | nil => exact positive
    | cons fields maps inductionHypothesis =>
        refine inductionHypothesis (positive.addAll fun added member => ?_)
        obtain ⟨pair, -, rfl⟩ := List.mem_map.mp member
        exact Int.zero_lt_one
  exact counted isPositive_empty

theorem IsPositive.occurrences_of_mem_toCounts (positive : histogram.IsPositive)
    {added : FieldCount} (member : added ∈ histogram.toCounts) : 0 < added.occurrences := by
  obtain ⟨⟨field, values⟩, stored, member⟩ := List.mem_flatMap.mp member
  obtain ⟨⟨value, occurrences⟩, held, rfl⟩ := List.mem_map.mp member
  refine positive field value occurrences ?_
  rw [valuesOf, ExtTreeMap.mem_toList_iff_getElem?_eq_some.mp stored]
  exact ExtTreeMap.mem_toList_iff_getElem?_eq_some.mp held

/-- A histogram counts a list if it holds exactly the values that occur in it, each with the number
of members in which it does. -/
def Counts (histogram : Histogram) (maps : List Fields) : Prop :=
  histogram.IsPositive ∧ ∀ field value, histogram.count field value =
    (maps.countP fun fields => fields[field]? = some value : Nat)

theorem counts_empty : Counts ∅ [] :=
  ⟨isPositive_empty, count_empty⟩

/-- Counting goes on where it stopped. -/
theorem Counts.addAll {counted : List Fields} (counts : histogram.Counts counted)
    (maps : List Fields) :
    (histogram.addAll (ofFields maps).toCounts).Counts (counted ++ maps) := by
  constructor
  · exact counts.1.addAll fun _ => (isPositive_ofFields maps).occurrences_of_mem_toCounts
  · intro field value
    rw [count_addAll, total_toCounts, count_ofFields, counts.2, List.countP_append, Int.natCast_add]

/-- A value that occurs is held with the number of its occurrences, and no other one is. -/
theorem Counts.getElem?_valuesOf {maps : List Fields} (counts : histogram.Counts maps)
    (field value : String) :
    let occurrences := maps.countP fun fields => fields[field]? = some value
    (histogram.valuesOf field)[value]? =
      if occurrences = 0 then none else some (occurrences : Int) := by
  intro occurrences
  have counted : histogram.count field value = occurrences := counts.2 field value
  rw [count, ExtTreeMap.getD_eq_getD_getElem?] at counted
  cases held : (histogram.valuesOf field)[value]? with
  | none =>
      rw [held] at counted
      rw [if_pos (Int.ofNat.inj counted).symm]
  | some number =>
      have occurs := counts.1 field value number held
      rw [held, Option.getD_some] at counted
      rw [if_neg (by omega), counted]

/-- Fields hold one value under each name, so different values occur no more often together than
there are members. -/
theorem sum_occurrences_le (maps : List Fields) (field : String) {values : List String}
    (distinct : values.Nodup) :
    (values.map fun value => (maps.countP fun fields => fields[field]? = some value : Int)).sum ≤
      maps.length := by
  induction maps with
  | nil => simp
  | cons fields maps inductionHypothesis =>
      have once : (values.map fun value =>
          if fields[field]? = some value then (1 : Int) else 0).sum ≤ 1 := by
        cases fields[field]? with
        | none => simp
        | some held =>
            have atMostOnce := List.nodup_iff_count_le_one.mp distinct held
            simp only [Option.some.injEq, @eq_comm _ held]
            rw [List.sum_map_ite_eq]
            simpa using atMostOnce
      have split : (values.map fun value =>
            ((fields :: maps).countP fun fields => fields[field]? = some value : Int)) =
          values.map fun value => (maps.countP fun fields => fields[field]? = some value : Int) +
            if fields[field]? = some value then (1 : Int) else 0 := by
        refine List.map_congr_left fun value _ => ?_
        rw [List.countP_cons]
        by_cases held : fields[field]? = some value
        · simp [held]
        · simp [held]
      rw [split, List.sum_map_add, List.length_cons]
      omega

/-- All occurrences of the values of a field come from different members. -/
theorem Counts.sum_values_le {maps : List Fields} (counts : histogram.Counts maps)
    (field : String) :
    ((histogram.valuesOf field).toList.map Prod.snd).sum ≤ maps.length := by
  have counted : (histogram.valuesOf field).toList.map Prod.snd =
      (histogram.valuesOf field).keys.map fun value =>
        (maps.countP fun fields => fields[field]? = some value : Int) := by
    rw [← ExtTreeMap.map_fst_toList_eq_keys, List.map_map]
    refine List.map_congr_left fun pair member => ?_
    have held := ExtTreeMap.mem_toList_iff_getElem?_eq_some.mp member
    rw [counts.getElem?_valuesOf] at held
    split at held
    · cases held
    · exact (Option.some.inj held).symm
  rw [counted]
  exact sum_occurrences_le maps field ExtTreeMap.nodup_keys

end Histogram

end LogQuery
