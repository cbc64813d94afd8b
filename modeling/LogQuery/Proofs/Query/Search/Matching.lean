import LogQuery.Query.Search.Matching

/-!
# When a search finds something

Every condition of a search is tested by itself.  A pattern that is too large counts for no condition
that it is part of.
-/

namespace LogQuery.Query.Search

variable {search : Search} {fields : Fields} {name value : String} {patterns : List String}

theorem matchesOne_iff :
    matchesOne patterns value = true ↔
      ∃ pattern ∈ patterns, Wildcard.fragmentFits pattern = true ∧
        Wildcard.fragmentMatches pattern value = true := by
  simp only [matchesOne, List.any_eq_true, Bool.and_eq_true]

theorem matchesOne_append (patterns others : List String) (value : String) :
    matchesOne (patterns ++ others) value =
      (matchesOne patterns value || matchesOne others value) :=
  List.any_append

theorem matchesEach_iff :
    matchesEach patterns value = true ↔
      ∀ pattern ∈ patterns, Wildcard.fragmentFits pattern = true →
        Wildcard.fragmentMatches pattern value = true := by
  simp only [matchesEach, List.all_eq_true, Bool.or_eq_true, Bool.not_eq_true',
    ← Bool.not_eq_true, Decidable.imp_iff_not_or]

theorem matchesRaw_iff {raw : String} :
    search.matchesRaw raw = true ↔
      (∀ fragment ∈ search.fragments, Wildcard.fragmentFits fragment = true →
        Wildcard.fragmentMatches fragment raw = true) ∧
      ∀ fragment ∈ search.notFragments, Wildcard.fragmentFits fragment = true →
        Wildcard.fragmentMatches fragment raw = false := by
  rw [matchesRaw, Bool.and_eq_true, matchesEach_iff, Bool.not_eq_true', ← Bool.not_eq_true,
    matchesOne_iff]
  simp only [Std.ExtTreeSet.mem_toList, not_exists, not_and, Bool.not_eq_true]

theorem matchesAny_of_getElem?_eq (found : fields[name]? = some value) (values : List String) :
    matchesAny fields name values = matchesOne values value := by
  simp only [matchesAny, found]

theorem matchesAny_append (fields : Fields) (name : String) (values others : List String) :
    matchesAny fields name (values ++ others) =
      (matchesAny fields name values || matchesAny fields name others) := by
  unfold matchesAny
  cases fields[name]? with
  | none => rfl
  | some value => exact matchesOne_append values others value

theorem matchesFields_iff :
    search.matchesFields fields = true ↔
      (∀ name values, search.fields[name]? = some values → matchesAny fields name values = true) ∧
      ∀ name values, search.notFields[name]? = some values →
        matchesAny fields name values = false := by
  simp only [matchesFields, Bool.and_eq_true, List.all_eq_true, Bool.not_eq_true',
    List.any_eq_false, Prod.forall, Std.ExtTreeMap.mem_toList_iff_getElem?_eq_some,
    Bool.not_eq_true]

end LogQuery.Query.Search
