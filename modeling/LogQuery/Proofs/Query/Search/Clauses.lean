import LogQuery.Query.Search
import Mathlib.Data.List.Induction

/-!
# What clauses come to

The clauses of a search take effect from left to right.  `Search.Comprises` tells the conditions of
the whole search from the list of its clauses without going through them one by one: of the lists
that a field is to be one of the last counts, and those that it must not be any of are joined.
-/

namespace LogQuery.Query

open LogQuery.Text

namespace Clause

/-- What the clause wants a field to be one of, if it says so. -/
def replacement? (name : String) : Clause → Option (List String)
  | .equals field value => if lowercase field = name then some [value] else none
  | .oneOf field values => if lowercase field = name then some values else none
  | _ => none

/-- What the clause wants a field not to be any of, if it says so. -/
def exclusion? (name : String) : Clause → Option (List String)
  | .notEquals field value => if lowercase field = name then some [value] else none
  | .noneOf field values => if lowercase field = name then some values else none
  | _ => none

end Clause

theorem FieldValues.mem_valuesOf {map : FieldValues} {name text : String} :
    text ∈ map.valuesOf name ↔ ∃ values, map[name]? = some values ∧ text ∈ values := by
  rw [valuesOf, Std.ExtTreeSet.mem_ofList, List.contains_iff_mem]
  cases map[name]? with
  | none => simp
  | some values => simp

theorem FieldValues.getElem?_append (map : FieldValues) (field name : String)
    (values : List String) :
    (map.append field values)[name]? =
      if field = name then some (map[name]?.getD [] ++ values) else map[name]? := by
  unfold FieldValues.append
  rw [Std.ExtTreeMap.getElem?_alter]
  simp only [Std.compare_eq_iff_eq]
  split
  · next same => rw [same]
  · rfl

/-- All lists joined, unless there is none. -/
def joined (lists : List (List String)) : Option (List String) :=
  if lists = [] then none else some lists.flatten

theorem joined_append (lists others : List (List String)) :
    joined (lists ++ others) = .merge (· ++ ·) (joined lists) (joined others) := by
  unfold joined
  cases lists with
  | nil =>
      cases others with
      | nil => rfl
      | cons values others => simp
  | cons values lists =>
      cases others with
      | nil => simp
      | cons values others => simp

theorem joined_concat (lists : List (List String)) (values : List String) :
    joined (lists ++ [values]) = some ((joined lists).getD [] ++ values) := by
  have single : joined [values] = some values := congrArg some (List.append_nil values)
  rw [joined_append, single]
  cases joined lists with
  | none => rfl
  | some others => rfl

/-- The conditions are those of the clauses. -/
structure SearchConditions.Comprise (conditions : SearchConditions) (clauses : List Clause) :
    Prop where
  mem_fragments : ∀ text, text ∈ conditions.fragments ↔ .fragment text ∈ clauses
  mem_notFragments : ∀ text, text ∈ conditions.notFragments ↔ .notFragment text ∈ clauses
  getElem?_fields : ∀ name : String,
    conditions.fields[name]? = (clauses.filterMap (·.replacement? name)).getLast?
  getElem?_notFields : ∀ name : String,
    conditions.notFields[name]? = joined (clauses.filterMap (·.exclusion? name))

/-- The search makes the conditions of the clauses.  The sources and hosts that it asks for or
excludes are the values of the fields of these names. -/
structure Search.Comprises (search : Search) (clauses : List Clause) : Prop where
  mem_fragments : ∀ text, text ∈ search.fragments ↔ .fragment text ∈ clauses
  mem_notFragments : ∀ text, text ∈ search.notFragments ↔ .notFragment text ∈ clauses
  getElem?_fields : ∀ name : String,
    search.fields[name]? = (clauses.filterMap (·.replacement? name)).getLast?
  getElem?_notFields : ∀ name : String,
    search.notFields[name]? = joined (clauses.filterMap (·.exclusion? name))
  mem_sources : ∀ text, text ∈ search.sources ↔
    ∃ values, search.fields["source"]? = some values ∧ text ∈ values
  mem_notSources : ∀ text, text ∈ search.notSources ↔
    ∃ values, search.notFields["source"]? = some values ∧ text ∈ values
  mem_hosts : ∀ text, text ∈ search.hosts ↔
    ∃ values, search.fields["host"]? = some values ∧ text ∈ values
  mem_notHosts : ∀ text, text ∈ search.notHosts ↔
    ∃ values, search.notFields["host"]? = some values ∧ text ∈ values

/-! ## One more clause -/

namespace SearchConditions

variable (conditions : SearchConditions) (clause : Clause) (name text : String)

theorem mem_fragments_add :
    text ∈ (conditions.add clause).fragments ↔
      text ∈ conditions.fragments ∨ clause = .fragment text := by
  cases clause with
  | fragment other =>
      simp only [add, Std.ExtTreeSet.mem_insert, Std.compare_eq_iff_eq, Clause.fragment.injEq]
      exact or_comm
  | notFragment | equals | notEquals | oneOf | noneOf => simp [add]

theorem mem_notFragments_add :
    text ∈ (conditions.add clause).notFragments ↔
      text ∈ conditions.notFragments ∨ clause = .notFragment text := by
  cases clause with
  | notFragment other =>
      simp only [add, Std.ExtTreeSet.mem_insert, Std.compare_eq_iff_eq, Clause.notFragment.injEq]
      exact or_comm
  | fragment | equals | notEquals | oneOf | noneOf => simp [add]

theorem getElem?_fields_add :
    (conditions.add clause).fields[name]? = (clause.replacement? name).or conditions.fields[name]? := by
  cases clause with
  | equals | oneOf =>
      simp only [add, Clause.replacement?, Std.ExtTreeMap.getElem?_insert, Std.compare_eq_iff_eq]
      split
      · rfl
      · rfl
  | fragment | notFragment | notEquals | noneOf => rfl

theorem getElem?_notFields_add :
    (conditions.add clause).notFields[name]? =
      match clause.exclusion? name with
      | some values => some (conditions.notFields[name]?.getD [] ++ values)
      | none => conditions.notFields[name]? := by
  cases clause with
  | notEquals | noneOf =>
      simp only [add, Clause.exclusion?, FieldValues.getElem?_append]
      split
      · rfl
      · rfl
  | fragment | notFragment | equals | oneOf => rfl

/-! ## All clauses -/

variable {conditions clause} {clauses : List Clause}

theorem comprise_empty : Comprise {} [] where
  mem_fragments text := by simp
  mem_notFragments text := by simp
  getElem?_fields name := by simp
  getElem?_notFields name := by simp [joined]

theorem Comprise.add (comprise : conditions.Comprise clauses) (clause : Clause) :
    (conditions.add clause).Comprise (clauses ++ [clause]) where
  mem_fragments text := by
    rw [mem_fragments_add, comprise.mem_fragments, List.mem_append, List.mem_singleton, eq_comm]
  mem_notFragments text := by
    rw [mem_notFragments_add, comprise.mem_notFragments, List.mem_append, List.mem_singleton,
      eq_comm]
  getElem?_fields name := by
    rw [getElem?_fields_add, comprise.getElem?_fields, List.filterMap_append,
      List.getLast?_append]
    cases replacement_eq : clause.replacement? name with
    | none => simp [replacement_eq]
    | some values => simp [replacement_eq]
  getElem?_notFields name := by
    rw [getElem?_notFields_add, comprise.getElem?_notFields, List.filterMap_append]
    cases exclusion_eq : clause.exclusion? name with
    | none => simp [exclusion_eq]
    | some values => simp [exclusion_eq, joined_concat]

theorem comprise_foldl_add (clauses : List Clause) : (clauses.foldl add {}).Comprise clauses := by
  induction clauses using List.reverseRecOn with
  | nil => exact comprise_empty
  | append_singleton clauses clause inductionHypothesis =>
      rw [List.foldl_append]
      exact inductionHypothesis.add clause

/-- Given clauses come to one thing only. -/
theorem Comprise.unique {others : SearchConditions} (comprise : conditions.Comprise clauses)
    (othersToo : others.Comprise clauses) : conditions = others := by
  have fragments_eq : conditions.fragments = others.fragments :=
    Std.ExtTreeSet.ext_mem fun text =>
      (comprise.mem_fragments text).trans (othersToo.mem_fragments text).symm
  have notFragments_eq : conditions.notFragments = others.notFragments :=
    Std.ExtTreeSet.ext_mem fun text =>
      (comprise.mem_notFragments text).trans (othersToo.mem_notFragments text).symm
  have fields_eq : conditions.fields = others.fields :=
    Std.ExtTreeMap.ext_getElem? fun name =>
      (comprise.getElem?_fields name).trans (othersToo.getElem?_fields name).symm
  have notFields_eq : conditions.notFields = others.notFields :=
    Std.ExtTreeMap.ext_getElem? fun name =>
      (comprise.getElem?_notFields name).trans (othersToo.getElem?_notFields name).symm
  cases conditions
  rw [mk.injEq]
  exact ⟨fragments_eq, notFragments_eq, fields_eq, notFields_eq⟩

end SearchConditions

namespace Search

variable {search other : Search} {clauses : List Clause}

/-- The sets that a search stores follow from its conditions. -/
theorem ext_conditions (same : search.toSearchConditions = other.toSearchConditions) :
    search = other := by
  obtain ⟨conditions, sources, notSources, hosts, notHosts, rfl, rfl, rfl, rfl⟩ := search
  obtain ⟨others, sources, notSources, hosts, notHosts, rfl, rfl, rfl, rfl⟩ := other
  obtain rfl : conditions = others := same
  rfl

theorem Comprises.conditions (comprises : search.Comprises clauses) :
    search.toSearchConditions.Comprise clauses where
  mem_fragments := comprises.mem_fragments
  mem_notFragments := comprises.mem_notFragments
  getElem?_fields := comprises.getElem?_fields
  getElem?_notFields := comprises.getElem?_notFields

theorem comprises_ofClauses (clauses : List Clause) : (ofClauses clauses).Comprises clauses where
  mem_fragments := (SearchConditions.comprise_foldl_add clauses).mem_fragments
  mem_notFragments := (SearchConditions.comprise_foldl_add clauses).mem_notFragments
  getElem?_fields := (SearchConditions.comprise_foldl_add clauses).getElem?_fields
  getElem?_notFields := (SearchConditions.comprise_foldl_add clauses).getElem?_notFields
  mem_sources _ := FieldValues.mem_valuesOf
  mem_notSources _ := FieldValues.mem_valuesOf
  mem_hosts _ := FieldValues.mem_valuesOf
  mem_notHosts _ := FieldValues.mem_valuesOf

/-- There is one search that makes the conditions of given clauses. -/
theorem comprises_iff : search.Comprises clauses ↔ search = ofClauses clauses := by
  constructor
  · intro comprises
    exact ext_conditions (comprises.conditions.unique (comprises_ofClauses clauses).conditions)
  · rintro rfl
    exact comprises_ofClauses clauses

end Search

end LogQuery.Query
