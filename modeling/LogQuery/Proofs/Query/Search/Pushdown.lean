import LogQuery.Extraction.FileParser
import LogQuery.Proofs.Query.Search.Matching

/-!
# What a store may leave out

A store looks only at the source and the host of an event before it hands the event out.  What it
leaves out on these grounds the search would not find anyway, whichever conditions the search has on
the two fields: an empty set of patterns allows everything, while an empty list of values matches
nothing.
-/

namespace LogQuery.Query

/-- The values of a field as a set are the values of the field. -/
theorem FieldValues.mem_toList_valuesOf {map : FieldValues} {field value : String} :
    value ∈ (map.valuesOf field).toList ↔ value ∈ map[field]?.getD [] := by
  rw [Std.ExtTreeSet.mem_toList, valuesOf, Std.ExtTreeSet.mem_ofList, List.contains_iff_mem]

namespace Search

variable {search : Search} {fields : Fields} {name value : String}

/-- Whether some value matches depends only on which patterns there are. -/
theorem matchesOne_valuesOf {map : FieldValues} :
    matchesOne (map.valuesOf name).toList value = matchesOne (map[name]?.getD []) value := by
  rw [Bool.eq_iff_iff, matchesOne_iff, matchesOne_iff]
  simp only [FieldValues.mem_toList_valuesOf]

/-- A condition that the search meets in a field allows the value of the field. -/
theorem allows_of_matchesFields (found : fields[name]? = some value)
    (matched : search.matchesFields fields = true) :
    allows (search.fields.valuesOf name) value = true := by
  rw [allows, matchesOne_valuesOf, Bool.or_eq_true]
  cases conditions : search.fields[name]? with
  | none =>
      left
      have noPattern : ∀ pattern, pattern ∉ (search.fields.valuesOf name).toList := by
        intro pattern
        rw [FieldValues.mem_toList_valuesOf, conditions]
        exact List.not_mem_nil
      rw [List.eq_nil_iff_forall_not_mem.mpr noPattern]
      rfl
  | some values =>
      right
      rw [← matchesAny_of_getElem?_eq found]
      exact (matchesFields_iff.mp matched).1 name values conditions

/-- What the search excludes in a field is not the value of the field. -/
theorem rulesOut_of_matchesFields (found : fields[name]? = some value)
    (matched : search.matchesFields fields = true) :
    rulesOut (search.notFields.valuesOf name) value = false := by
  rw [rulesOut, matchesOne_valuesOf]
  cases conditions : search.notFields[name]? with
  | none => rfl
  | some values =>
      rw [← matchesAny_of_getElem?_eq found]
      exact (matchesFields_iff.mp matched).2 name values conditions

/-- An event whose fields the search accepts is one that the store hands out. -/
theorem admits_of_matchesFields {source host : String}
    (sourceField : fields["source"]? = some source) (hostField : fields["host"]? = some host)
    (matched : search.matchesFields fields = true) : search.admits source host = true := by
  have sourceAllowed := allows_of_matchesFields sourceField matched
  have hostAllowed := allows_of_matchesFields hostField matched
  have sourceKept := rulesOut_of_matchesFields sourceField matched
  have hostKept := rulesOut_of_matchesFields hostField matched
  rw [← search.sources_eq] at sourceAllowed
  rw [← search.hosts_eq] at hostAllowed
  rw [← search.notSources_eq] at sourceKept
  rw [← search.notHosts_eq] at hostKept
  simp only [admits, sourceAllowed, hostAllowed, sourceKept, hostKept, Bool.not_false,
    Bool.and_self]

end Search

end LogQuery.Query

namespace LogQuery.Extraction.FileParser

variable (parser : FileParser) (event : Event)

@[simp] theorem getElem?_fieldsOf_source :
    (parser.fieldsOf event)["source"]? = some event.source :=
  Std.ExtTreeMap.getElem?_insert_self

@[simp] theorem getElem?_fieldsOf_host :
    (parser.fieldsOf event)["host"]? = some event.host := by
  rw [fieldsOf, Std.ExtTreeMap.getElem?_insert, if_neg (by decide),
    Std.ExtTreeMap.getElem?_insert_self]

end LogQuery.Extraction.FileParser
