import LogQuery.Text.CodeRanges
import Mathlib

/-!
# The code points of a table

However the ranges that a table is put together from overlap, it holds no code point twice and none
that the ranges leave out.  So it is no larger than any list of what the ranges hold.
-/

namespace LogQuery.Text.CodeRanges

variable {table : CodeRanges} {ranges : List (Nat × Nat)} {low high code : Nat}

/-- One of the ranges holds the code point. -/
def Holds (ranges : List (Nat × Nat)) (code : Nat) : Prop :=
  ∃ range ∈ ranges, range.1 ≤ code ∧ code ≤ range.2

theorem holds_cons {range : Nat × Nat} :
    Holds (range :: ranges) code ↔ (range.1 ≤ code ∧ code ≤ range.2) ∨ Holds ranges code := by
  rw [Holds, List.exists_mem_cons_iff, Holds]

theorem holds_append {others : List (Nat × Nat)} :
    Holds (ranges ++ others) code ↔ Holds ranges code ∨ Holds others code := by
  simp only [Holds, List.mem_append, or_and_right, exists_or]

theorem Holds.of_clip {first last : Nat} (holds : Holds (clip first last ranges) code) :
    Holds ranges code ∧ first ≤ code ∧ code ≤ last := by
  obtain ⟨_, clipped, above, below⟩ := holds
  obtain ⟨range, member, rfl⟩ := List.mem_map.mp (List.mem_filter.mp clipped).1
  obtain ⟨fromFirst, fromLow⟩ := Nat.max_le.mp above
  obtain ⟨toLast, toHigh⟩ := Nat.le_min.mp below
  exact ⟨⟨range, member, fromLow, toHigh⟩, fromFirst, toLast⟩

theorem clip_singleton (low high first last : Nat) :
    clip low high [(first, last)] =
      if max low first ≤ min high last then [(max low first, min high last)] else [] := by
  rw [clip, List.map_singleton, List.filter_cons, List.filter_nil]
  simp only [decide_eq_true_eq]

/-- No range is empty. -/
def Proper (ranges : List (Nat × Nat)) : Prop :=
  ∀ range ∈ ranges, range.1 ≤ range.2

theorem proper_clip (first last : Nat) (ranges : List (Nat × Nat)) :
    Proper (clip first last ranges) :=
  fun _ member => of_decide_eq_true (List.mem_filter.mp member).2

theorem Proper.shift (proper : Proper ranges) (distance : Int) :
    Proper (CodeRanges.shift distance ranges) := by
  intro _ moved
  obtain ⟨range, member, rfl⟩ := List.mem_map.mp moved
  have ordered := proper range member
  dsimp only
  omega

/-- Ranges in ascending order of which none is empty and no two meet. -/
structure Ascending (table : CodeRanges) : Prop where
  proper : Proper table
  apart : table.Pairwise fun range next => range.2 < next.1

theorem Ascending.prepend (ascending : Ascending table) (ordered : low ≤ high) :
    Ascending (prepend low high table) := by
  induction table generalizing high with
  | nil => exact ⟨List.forall_mem_singleton.mpr ordered, List.pairwise_singleton _ _⟩
  | cons next rest inductionHypothesis =>
      obtain ⟨nextLow, nextHigh⟩ := next
      have nextOrdered : nextLow ≤ nextHigh := ascending.proper _ List.mem_cons_self
      have behind : Ascending rest :=
        ⟨fun range member => ascending.proper range (List.mem_cons_of_mem _ member),
          ascending.apart.of_cons⟩
      rw [CodeRanges.prepend]
      split
      · exact inductionHypothesis behind (ordered.trans (Nat.le_max_left _ _))
      · next gap =>
          refine ⟨List.forall_mem_cons.mpr ⟨ordered, ascending.proper⟩,
            List.pairwise_cons.mpr ⟨?_, ascending.apart⟩⟩
          refine List.forall_mem_cons.mpr ⟨?_, fun range member => ?_⟩
          · dsimp only
            omega
          · have above := List.rel_of_pairwise_cons ascending.apart member
            dsimp only at above ⊢
            omega

theorem Holds.of_prepend (holds : Holds (prepend low high table) code) :
    (low ≤ code ∧ code ≤ high) ∨ Holds table code := by
  induction table generalizing high with
  | nil => exact holds_cons.mp holds
  | cons next rest inductionHypothesis =>
      obtain ⟨nextLow, nextHigh⟩ := next
      rw [CodeRanges.prepend] at holds
      rw [holds_cons]
      split at holds
      · next touching =>
          rcases inductionHypothesis holds with ⟨fromLow, toHigh⟩ | behind
          · rcases Nat.lt_or_ge high code with beyond | within
            · rw [Nat.max_eq_max] at toHigh
              exact .inr (.inl (by dsimp only; omega))
            · exact .inl ⟨fromLow, within⟩
          · exact .inr (.inr behind)
      · exact (holds_cons.mp holds).imp_right holds_cons.mp

/-- A table in ascending order is put together from its last range on. -/
theorem ofRanges_of_ascending (ascending : (ranges.map Prod.fst).Pairwise (· ≤ ·)) :
    ofRanges ranges = ranges.foldr (fun range table => prepend range.1 range.2 table) [] := by
  rw [ofRanges, List.mergeSort_of_pairwise]
  exact (List.pairwise_map.mp ascending).imp decide_eq_true

theorem ascending_ofRanges (proper : Proper ranges) : Ascending (ofRanges ranges) := by
  have sortedProper : Proper (ranges.mergeSort fun first second => decide (first.1 ≤ second.1)) :=
    fun range member => proper range (List.mem_mergeSort.mp member)
  rw [ofRanges]
  generalize (ranges.mergeSort fun first second => decide (first.1 ≤ second.1)) = sorted
    at sortedProper ⊢
  induction sorted with
  | nil => exact ⟨nofun, List.Pairwise.nil⟩
  | cons range others inductionHypothesis =>
      obtain ⟨here, behind⟩ := List.forall_mem_cons.mp sortedProper
      exact (inductionHypothesis behind).prepend here

theorem Holds.of_ofRanges (holds : Holds (ofRanges ranges) code) : Holds ranges code := by
  have among : Holds (ranges.mergeSort fun first second => decide (first.1 ≤ second.1)) code := by
    rw [ofRanges] at holds
    generalize (ranges.mergeSort fun first second => decide (first.1 ≤ second.1)) = sorted
      at holds ⊢
    induction sorted with
    | nil => exact holds
    | cons range others inductionHypothesis =>
        exact holds_cons.mpr (holds.of_prepend.imp_right inductionHypothesis)
  obtain ⟨range, member, within⟩ := among
  exact ⟨range, List.mem_mergeSort.mp member, within⟩

/-! ## How many code points there are -/

/-- How many code points ranges hold, those of each counted for itself. -/
def size (ranges : List (Nat × Nat)) : Nat :=
  (ranges.map fun range => range.2 + 1 - range.1).sum

theorem size_cons (range : Nat × Nat) (ranges : List (Nat × Nat)) :
    size (range :: ranges) = range.2 + 1 - range.1 + size ranges := by
  rw [size, List.map_cons, List.sum_cons, size]

/-- A table is no larger than a list of what it holds. -/
theorem Ascending.size_le {codes : List Nat} (ascending : Ascending table)
    (listed : ∀ code, Holds table code → code ∈ codes) : size table ≤ codes.length := by
  have size_eq : size table =
      (table.flatMap fun range => List.range' range.1 (range.2 + 1 - range.1)).length := by
    rw [size, List.length_flatMap]
    simp only [List.length_range']
  have once : (table.flatMap fun range => List.range' range.1 (range.2 + 1 - range.1)).Nodup := by
    refine List.nodup_flatMap.mpr ⟨fun _ _ => List.nodup_range', ?_⟩
    refine ascending.apart.imp fun {range next} apart code here there => ?_
    have upTo := List.mem_range'_1.mp here
    have onward := List.mem_range'_1.mp there
    omega
  rw [size_eq]
  refine (once.subperm fun code member => ?_).length_le
  obtain ⟨range, memberToo, within⟩ := List.mem_flatMap.mp member
  have bounds := List.mem_range'_1.mp within
  exact listed code ⟨range, memberToo, by omega, by omega⟩

theorem Proper.length_le_size (proper : Proper ranges) : ranges.length ≤ size ranges := by
  induction ranges with
  | nil => exact Nat.zero_le _
  | cons range ranges inductionHypothesis =>
      obtain ⟨here, behind⟩ := List.forall_mem_cons.mp proper
      have others := inductionHypothesis behind
      rw [List.length_cons, size_cons]
      omega

theorem size_append (ranges others : List (Nat × Nat)) :
    size (ranges ++ others) = size ranges + size others := by
  rw [size, List.map_append, List.sum_append, size, size]

theorem proper_characters (ranges : List (Nat × Nat)) : Proper (characters ranges) :=
  fun range member => (List.mem_append.mp member).elim (proper_clip _ _ _ range)
    (proper_clip _ _ _ range)

theorem size_clip_cons (first last : Nat) (range : Nat × Nat) (ranges : List (Nat × Nat)) :
    size (clip first last (range :: ranges)) =
      Nat.min last range.2 + 1 - Nat.max first range.1 + size (clip first last ranges) := by
  rw [clip, List.map_cons, List.filter_cons]
  split
  · rw [size_cons]
    rfl
  · next empty =>
      have none : Nat.min last range.2 + 1 - Nat.max first range.1 = 0 := by
        have empty := of_decide_eq_false (Bool.eq_false_iff.mpr empty)
        dsimp only at empty
        omega
      rw [none, Nat.zero_add]
      rfl

/-- Leaving out surrogates makes a table no larger. -/
theorem size_characters_le (ranges : List (Nat × Nat)) :
    size (characters ranges) ≤ size ranges := by
  rw [characters, size_append]
  induction ranges with
  | nil => exact Nat.le_refl _
  | cons range ranges inductionHypothesis =>
      have below : Nat.min 0xD7FF range.2 + 1 - Nat.max 0 range.1 ≤
          Nat.min 0xD7FF range.2 + 1 - range.1 := by
        rw [Nat.max_eq_max]
        omega
      rw [size_clip_cons, size_clip_cons, size_cons]
      simp only [Nat.min_eq_min, Nat.max_eq_max] at below ⊢
      omega

end LogQuery.Text.CodeRanges
