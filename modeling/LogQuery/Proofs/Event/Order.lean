import LogQuery.Event

/-!
# The order of results

Results are shown from the newest to the oldest event, and events of one time from the greatest to
the least number.  No two references tie in this order, so sorting has only one outcome, and what is
in order already stays as it is.
-/

namespace LogQuery

open LogQuery.Time

/-! ## Sorting by number -/

section ByNumber

variable {α : Type} (number : α → Int)

theorem number_le_trans (first second third : α)
    (firstSecond : decide (number first ≤ number second) = true)
    (secondThird : decide (number second ≤ number third) = true) :
    decide (number first ≤ number third) = true :=
  decide_eq_true (Int.le_trans (of_decide_eq_true firstSecond) (of_decide_eq_true secondThird))

theorem number_le_total (first second : α) :
    (decide (number first ≤ number second) || decide (number second ≤ number first)) = true := by
  rw [Bool.or_eq_true, decide_eq_true_iff, decide_eq_true_iff]
  exact Int.le_total (number first) (number second)

theorem pairwise_mergeSort_number (items : List α) :
    (items.mergeSort fun first second => decide (number first ≤ number second)).Pairwise
      fun first second => number first ≤ number second :=
  (List.pairwise_mergeSort (number_le_trans number) (number_le_total number) items).imp
    of_decide_eq_true

end ByNumber

/-! ## From the newest to the oldest -/

namespace EventRef

/-- The first of two events is later, or of the same time and with a greater number. -/
def Precedes (first second : EventRef) : Prop :=
  ¬first.timestamp ≤ second.timestamp ∨
    first.timestamp = second.timestamp ∧ second.id < first.id

theorem mayPrecede_iff {first second : EventRef} :
    first.mayPrecede second = true ↔
      ¬first.timestamp ≤ second.timestamp ∨
        first.timestamp = second.timestamp ∧ second.id ≤ first.id := by
  unfold mayPrecede
  split
  · next same =>
      simp [same, Instant.le_refl]
  · next different =>
      simp only [decide_eq_true_eq, different, false_and, or_false]
      constructor
      · exact fun later earlier => different (Instant.le_antisymm earlier later)
      · exact fun notEarlier => (Instant.le_total _ _).resolve_left notEarlier

theorem mayPrecede_trans (first second third : EventRef)
    (firstSecond : first.mayPrecede second = true)
    (secondThird : second.mayPrecede third = true) :
    first.mayPrecede third = true := by
  rw [mayPrecede_iff] at *
  rcases firstSecond with later | ⟨same, number⟩
  · rcases secondThird with later' | ⟨same', -⟩
    · left
      intro earlier
      have middle := (Instant.le_total second.timestamp third.timestamp).resolve_left later'
      exact later (Instant.le_trans earlier middle)
    · left
      rwa [← same']
  · rcases secondThird with later' | ⟨same', number'⟩
    · left
      rwa [same]
    · right
      exact ⟨same.trans same', Int.le_trans number' number⟩

theorem mayPrecede_total (first second : EventRef) :
    (first.mayPrecede second || second.mayPrecede first) = true := by
  rw [Bool.or_eq_true, mayPrecede_iff, mayPrecede_iff]
  by_cases same : first.timestamp = second.timestamp
  · rcases Int.le_total first.id second.id with number | number
    · exact .inr (.inr ⟨same.symm, number⟩)
    · exact .inl (.inr ⟨same, number⟩)
  · by_cases earlier : first.timestamp ≤ second.timestamp
    · exact .inr (.inl fun later => same (Instant.le_antisymm earlier later))
    · exact .inl (.inl earlier)

/-- Only equal references may stand either way. -/
theorem eq_of_mayPrecede {first second : EventRef} (forward : first.mayPrecede second = true)
    (backward : second.mayPrecede first = true) : first = second := by
  rcases mayPrecede_iff.mp forward with later | ⟨sameTime, number⟩
  · rcases mayPrecede_iff.mp backward with later' | ⟨sameTime, -⟩
    · exact absurd (Instant.le_total _ _) (not_or.mpr ⟨later, later'⟩)
    · exact absurd (sameTime ▸ Instant.le_refl _) later
  · rcases mayPrecede_iff.mp backward with later' | ⟨-, number'⟩
    · exact absurd (sameTime ▸ Instant.le_refl _) later'
    · obtain ⟨id, timestamp⟩ := first
      obtain rfl : timestamp = second.timestamp := sameTime
      obtain rfl : id = second.id := Int.le_antisymm number' number
      rfl

/-- The strict order is the order that sorting uses, without ties. -/
theorem precedes_iff {first second : EventRef} :
    first.Precedes second ↔ first.mayPrecede second = true ∧ first ≠ second := by
  rw [mayPrecede_iff]
  constructor
  · rintro (later | ⟨same, number⟩)
    · refine ⟨.inl later, ?_⟩
      rintro rfl
      exact later (Instant.le_refl _)
    · refine ⟨.inr ⟨same, Int.le_of_lt number⟩, ?_⟩
      rintro rfl
      exact Int.lt_irrefl _ number
  · rintro ⟨later | ⟨same, number⟩, different⟩
    · exact .inl later
    · refine .inr ⟨same, Int.lt_of_not_ge fun back => different ?_⟩
      exact eq_of_mayPrecede (mayPrecede_iff.mpr (.inr ⟨same, number⟩))
        (mayPrecede_iff.mpr (.inr ⟨same.symm, back⟩))

theorem precedes_or_eq_of_mayPrecede {first second : EventRef}
    (inOrder : first.mayPrecede second = true) : first.Precedes second ∨ first = second := by
  by_cases same : first = second
  · exact .inr same
  · exact .inl (precedes_iff.mpr ⟨inOrder, same⟩)

/-- References in order stay as they are. -/
theorem newestFirst_of_pairwise {refs : List EventRef}
    (ordered : refs.Pairwise (·.mayPrecede · = true)) : newestFirst refs = refs :=
  List.mergeSort_of_pairwise ordered

theorem perm_newestFirst (refs : List EventRef) : (newestFirst refs).Perm refs :=
  List.mergeSort_perm refs _

theorem pairwise_newestFirst (refs : List EventRef) :
    (newestFirst refs).Pairwise (·.mayPrecede · = true) :=
  List.pairwise_mergeSort mayPrecede_trans mayPrecede_total refs

/-- Sorted references come one after the other, or are equal. -/
theorem pairwise_precedes_or_eq_newestFirst (refs : List EventRef) :
    (newestFirst refs).Pairwise fun first second => first.Precedes second ∨ first = second :=
  (pairwise_newestFirst refs).imp precedes_or_eq_of_mayPrecede

/-- References have one order, in whichever order they are given. -/
theorem newestFirst_eq_of_perm {refs others : List EventRef} (perm : refs.Perm others) :
    newestFirst refs = newestFirst others :=
  List.Perm.eq_of_pairwise (fun _ _ _ _ => eq_of_mayPrecede) (pairwise_newestFirst refs)
    (pairwise_newestFirst others)
    ((perm_newestFirst refs).trans (perm.trans (perm_newestFirst others).symm))

end EventRef

namespace Event

variable (events : List Event)

theorem perm_newestFirst : (newestFirst events).Perm events :=
  List.mergeSort_perm events _

theorem pairwise_newestFirst :
    (newestFirst events).Pairwise fun first second =>
      first.ref.mayPrecede second.ref = true := by
  refine List.pairwise_mergeSort ?_ ?_ events
  · intro first second third
    exact EventRef.mayPrecede_trans first.ref second.ref third.ref
  · intro first second
    exact EventRef.mayPrecede_total first.ref second.ref

/-- Events with different numbers come one strictly after the other. -/
theorem pairwise_precedes_newestFirst (distinct : (events.map (·.id)).Nodup) :
    (newestFirst events).Pairwise fun first second => first.ref.Precedes second.ref := by
  have numbers : (newestFirst events).Pairwise fun first second => first.id ≠ second.id := by
    have sorted : ((newestFirst events).map (·.id)).Nodup :=
      ((perm_newestFirst events).map _).nodup_iff.mpr distinct
    exact List.pairwise_map.mp sorted
  refine (pairwise_newestFirst events).imp₂ ?_ numbers
  intro first second inOrder different
  exact EventRef.precedes_iff.mpr ⟨inOrder, fun same => different (congrArg EventRef.id same)⟩

end Event

end LogQuery
