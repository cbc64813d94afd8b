import LogQuery.Proofs.Event.Store

/-!
# Events by number

A number stands for one event at most, so an event is found as often as its number is asked for.
Unless events are shown as they were asked for, their order is that of the events alone, whatever
the order of the numbers.
-/

namespace LogQuery.EventStore

variable (store : EventStore)

/-- Whatever the order, the events are those of the known numbers. -/
theorem perm_byIds (ids : List Int) (mode : SortMode) :
    (store.byIds ids mode).Perm (ids.filterMap store.get?) := by
  cases mode with
  | unsorted => exact List.mergeSort_perm _ _
  | newestFirst => exact Event.perm_newestFirst _
  | asGiven => exact .refl _

theorem mem_events_of_mem_byIds {ids : List Int} {mode : SortMode} {event : Event}
    (member : event ∈ store.byIds ids mode) : event ∈ store.events := by
  obtain ⟨id, -, found⟩ := List.mem_filterMap.mp ((store.perm_byIds ids mode).mem_iff.mp member)
  exact (store.get?_eq_some_iff.mp found).1

theorem count_byIds {event : Event} (stored : event ∈ store.events) (ids : List Int)
    (mode : SortMode) : (store.byIds ids mode).count event = ids.count event.id := by
  rw [(store.perm_byIds ids mode).count_eq, List.count_filterMap, List.count]
  refine List.countP_congr fun id _ => ?_
  rw [beq_iff_eq, beq_iff_eq, get?_eq_some_iff, and_iff_right stored, eq_comm]

/-- Events that are shown as they were asked for have the known numbers in this order. -/
theorem map_id_byIds_asGiven (ids : List Int) :
    (store.byIds ids .asGiven).map (·.id) =
      ids.filter fun (id : Int) => decide (1 ≤ id ∧ id ≤ store.size) := by
  change (ids.filterMap store.get?).map (·.id) = _
  rw [List.map_filterMap, ← List.filterMap_eq_filter]
  refine List.filterMap_congr fun id _ => ?_
  cases found : store.get? id with
  | none =>
      have unknown : ¬ (1 ≤ id ∧ id ≤ store.size) := by
        rw [← store.isSome_get?_iff, found]
        exact Bool.false_ne_true
      rw [Option.guard, if_neg (by simpa using unknown), Option.map_none]
  | some event =>
      have known : 1 ≤ id ∧ id ≤ store.size := by
        rw [← store.isSome_get?_iff, found]
        rfl
      rw [Option.guard, if_pos (by simpa using known), Option.map_some,
        (store.get?_eq_some_iff.mp found).2]

/-- Where only events of one number tie, stored events can be sorted in one way only. -/
theorem eq_of_perm_of_pairwise {MayPrecede : Event → Event → Prop}
    (tied : ∀ first second, MayPrecede first second → MayPrecede second first →
      first.id = second.id)
    {events others : List Event} (stored : ∀ event ∈ events, event ∈ store.events)
    (sorted : events.Pairwise MayPrecede) (sortedToo : others.Pairwise MayPrecede)
    (perm : events.Perm others) : events = others := by
  refine List.Perm.eq_of_pairwise ?_ sorted sortedToo perm
  intro first second inEvents inOthers forward backward
  exact store.eq_of_id_eq (stored first inEvents) (stored second (perm.mem_iff.mpr inOthers))
    (tied first second forward backward)

theorem perm_byIds_of_perm {ids others : List Int} (perm : ids.Perm others) (mode : SortMode) :
    (store.byIds ids mode).Perm (store.byIds others mode) :=
  (store.perm_byIds ids mode).trans
    ((perm.filterMap store.get?).trans (store.perm_byIds others mode).symm)

theorem byIds_newestFirst_of_perm {ids others : List Int} (perm : ids.Perm others) :
    store.byIds ids .newestFirst = store.byIds others .newestFirst := by
  refine store.eq_of_perm_of_pairwise ?_ (fun _ => store.mem_events_of_mem_byIds)
    (Event.pairwise_newestFirst _) (Event.pairwise_newestFirst _)
    (store.perm_byIds_of_perm perm .newestFirst)
  intro first second forward backward
  exact congrArg EventRef.id (EventRef.eq_of_mayPrecede forward backward)

theorem pairwise_byIds_unsorted (ids : List Int) :
    (store.byIds ids .unsorted).Pairwise fun first second => first.id ≤ second.id :=
  pairwise_mergeSort_number Event.id (ids.filterMap store.get?)

theorem byIds_unsorted_of_perm {ids others : List Int} (perm : ids.Perm others) :
    store.byIds ids .unsorted = store.byIds others .unsorted :=
  store.eq_of_perm_of_pairwise (fun _ _ => Int.le_antisymm)
    (fun _ => store.mem_events_of_mem_byIds) (store.pairwise_byIds_unsorted ids)
    (store.pairwise_byIds_unsorted others) (store.perm_byIds_of_perm perm .unsorted)

/-- Newest first, events come one after the other, or are equal. -/
theorem pairwise_byIds_newestFirst (ids : List Int) :
    (store.byIds ids .newestFirst).Pairwise fun first second =>
      first.ref.Precedes second.ref ∨ first = second := by
  have inOrder : (store.byIds ids .newestFirst).Pairwise fun first second =>
      first.ref.mayPrecede second.ref = true :=
    Event.pairwise_newestFirst (ids.filterMap store.get?)
  refine inOrder.imp_of_mem ?_
  intro first second inFirst inSecond inOrder
  refine (EventRef.precedes_or_eq_of_mayPrecede inOrder).imp_right fun same => ?_
  exact store.eq_of_id_eq (store.mem_events_of_mem_byIds inFirst)
    (store.mem_events_of_mem_byIds inSecond) (congrArg EventRef.id same)

/-- Ask a store for the events of some numbers.  It gives each of its events exactly as often as the
number of the event is asked for, and nothing else.  The events are shown in the order of the known
numbers that are asked for, or from the newest to the oldest, or with ascending numbers; in the last
two cases it makes no difference in which order the numbers are. -/
theorem events_are_found_as_often_as_asked_for (pageSize : Nat) (added : List NewEvent)
    (ids : List Int) :
    let store := (empty pageSize).addAll added
    (∀ mode, (∀ event ∈ store.events, (store.byIds ids mode).count event = ids.count event.id) ∧
        ∀ event ∈ store.byIds ids mode, event ∈ store.events) ∧
      (store.byIds ids .asGiven).map (·.id) =
        ids.filter (fun (id : Int) => decide (1 ≤ id ∧ id ≤ added.length)) ∧
      (store.byIds ids .newestFirst).Pairwise (fun first second =>
        first.ref.Precedes second.ref ∨ first = second) ∧
      (store.byIds ids .unsorted).Pairwise (fun first second => first.id ≤ second.id) ∧
      ∀ others, ids.Perm others →
        store.byIds others .newestFirst = store.byIds ids .newestFirst ∧
          store.byIds others .unsorted = store.byIds ids .unsorted := by
  intro store
  have size_eq : store.size = added.length :=
    (size_addAll (empty pageSize) added).trans (Nat.zero_add _)
  refine ⟨fun mode => ⟨fun event stored => store.count_byIds stored ids mode,
    fun event => store.mem_events_of_mem_byIds⟩, ?_, store.pairwise_byIds_newestFirst ids,
    store.pairwise_byIds_unsorted ids, fun others perm => ?_⟩
  · rw [← size_eq]
    exact store.map_id_byIds_asGiven ids
  · exact ⟨store.byIds_newestFirst_of_perm perm.symm, store.byIds_unsorted_of_perm perm.symm⟩

-- Two events are of one time, one is asked for twice, and one does not exist.
example :
    let store := (empty 500).addAll
      [⟨"a", .ofMillis 5, "h", "s"⟩, ⟨"b", .ofMillis 1, "h", "s"⟩, ⟨"c", .ofMillis 5, "h", "s"⟩]
    (store.byIds [2, 7, 1, 3, 2] .asGiven).map (·.id) = [2, 1, 3, 2] ∧
      (store.byIds [2, 7, 1, 3, 2] .newestFirst).map (·.id) = [3, 1, 2, 2] ∧
      (store.byIds [2, 7, 1, 3, 2] .unsorted).map (·.id) = [1, 2, 2, 3] := by
  intro store
  refine ⟨?_, ?_, ?_⟩
  · cbv
  · cbv
  · cbv

end LogQuery.EventStore
