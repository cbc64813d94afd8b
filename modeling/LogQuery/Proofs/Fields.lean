import LogQuery.Fields

/-!
# Fields that are set one after the other

Of several values under one name the one that is set last counts.
-/

namespace LogQuery.Fields

/-- A name holds what the last of the items sets it to, or else what it held before. -/
theorem getElem?_foldl_insert {α : Type} (key value : α → String) (items : List α)
    (fields : Fields) (name : String) :
    (items.foldl (fun fields item => fields.insert (key item) (value item)) fields)[name]? =
      ((items.map fun item => (key item, value item)).reverse.lookup name).or fields[name]? := by
  induction items generalizing fields with
  | nil => rfl
  | cons item items inductionHypothesis =>
      rw [List.foldl_cons, inductionHypothesis, List.map_cons, List.reverse_cons,
        List.lookup_append, Option.or_assoc, Std.ExtTreeMap.getElem?_insert]
      refine congrArg _ ?_
      by_cases same : key item = name
      · subst same
        rw [if_pos (Std.compare_eq_iff_eq.mpr rfl), List.lookup_cons, beq_self_eq_true]
        rfl
      · rw [if_neg (by simpa using same), List.lookup_cons, beq_false_of_ne (Ne.symm same)]
        rfl

theorem getElem?_ofPairs (pairs : List (String × String)) (name : String) :
    (ofPairs pairs)[name]? = pairs.reverse.lookup name := by
  have set := getElem?_foldl_insert Prod.fst Prod.snd pairs ∅ name
  rwa [List.map_id'', Std.ExtTreeMap.getElem?_empty, Option.or_none] at set
  exact fun _ => rfl

end LogQuery.Fields
