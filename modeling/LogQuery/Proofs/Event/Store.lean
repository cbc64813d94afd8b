import LogQuery.Event.Store
import LogQuery.Proofs.Event.Order
import Mathlib.Data.List.Nodup

/-!
# What a store hands out

The numbers of stored events are distinct.  The pages of a search are its candidates cut into
pieces: put together they are the candidates again, in the order of results, none is empty, and all
but the last are full.
-/

namespace LogQuery.EventStore

open LogQuery.Query

section Pages

variable {α : Type} {size : Nat} {size_pos : 0 < size}

@[simp] theorem flatten_paginate (items : List α) :
    (paginate size size_pos items).flatten = items := by
  fun_induction paginate size size_pos items with
  | case1 => rfl
  | case2 item rest inductionHypothesis =>
      rw [List.flatten_cons, inductionHypothesis, List.take_append_drop]

theorem paginate_eq_nil_iff {items : List α} : paginate size size_pos items = [] ↔ items = [] := by
  constructor
  · intro none
    rw [← @flatten_paginate α size size_pos items, none, List.flatten_nil]
  · rintro rfl
    rw [paginate]

theorem ne_nil_of_mem_paginate {items page : List α} (isPage : page ∈ paginate size size_pos items) :
    page ≠ [] := by
  fun_induction paginate size size_pos items with
  | case1 => exact absurd isPage List.not_mem_nil
  | case2 item rest inductionHypothesis =>
      rcases List.mem_cons.mp isPage with rfl | isPage
      · simp [Nat.ne_of_gt size_pos]
      · exact inductionHypothesis isPage

theorem length_le_of_mem_paginate {items page : List α}
    (isPage : page ∈ paginate size size_pos items) : page.length ≤ size := by
  fun_induction paginate size size_pos items with
  | case1 => exact absurd isPage List.not_mem_nil
  | case2 item rest inductionHypothesis =>
      rcases List.mem_cons.mp isPage with rfl | isPage
      · exact List.length_take_le size _
      · exact inductionHypothesis isPage

/-- Only the last page may be short. -/
theorem length_eq_of_mem_dropLast_paginate {items page : List α}
    (isPage : page ∈ (paginate size size_pos items).dropLast) : page.length = size := by
  fun_induction paginate size size_pos items with
  | case1 => exact absurd isPage List.not_mem_nil
  | case2 item rest inductionHypothesis =>
      by_cases goesOn : (item :: rest).drop size = []
      · rw [paginate_eq_nil_iff.mpr goesOn] at isPage
        exact absurd isPage List.not_mem_nil
      · rw [List.dropLast_cons_of_ne_nil (mt paginate_eq_nil_iff.mp goesOn)] at isPage
        rcases List.mem_cons.mp isPage with rfl | isPage
        · have longer : size < (item :: rest).length := by
            rwa [List.drop_eq_nil_iff, Nat.not_le] at goesOn
          rw [List.length_take, Nat.min_eq_left (Nat.le_of_lt longer)]
        · exact inductionHypothesis isPage

end Pages

variable (store : EventStore)

/-- The store after events have been added. -/
def addAll (events : List NewEvent) : EventStore :=
  events.foldl (fun store event => (store.add event).2) store

/-- Adding events only makes the store longer, by one for each. -/
theorem size_addAll (events : List NewEvent) :
    (store.addAll events).size = store.size + events.length := by
  induction events generalizing store with
  | nil => rfl
  | cons event events inductionHypothesis =>
      have longer : (store.add event).2.size = store.size + 1 := List.length_append
      refine (inductionHypothesis (store.add event).2).trans ?_
      rw [longer, List.length_cons, Nat.add_right_comm, Nat.add_assoc]

/-- The numbers of the events of a store are the numbers from one on. -/
theorem map_id_events :
    store.events.map (·.id) =
      (List.range store.size).map fun (index : Nat) => (index : Int) + 1 := by
  refine List.ext_getElem ?_ ?_
  · simp [events, size]
  · intro index _ _
    simp [events, numbered]

theorem nodup_map_id_events : (store.events.map (·.id)).Nodup := by
  rw [map_id_events]
  refine List.Nodup.map ?_ List.nodup_range
  intro first second same
  exact Int.ofNat.inj ((Int.add_left_inj 1).mp same)

/-- A number belongs to at most one event. -/
theorem eq_of_id_eq {first second : Event} (firstStored : first ∈ store.events)
    (secondStored : second ∈ store.events) (same : first.id = second.id) : first = second :=
  List.inj_on_of_nodup_map (nodup_map_id_events store) firstStored secondStored same

/-- An event is found by its number. -/
theorem get?_eq_some_iff {id : Int} {event : Event} :
    store.get? id = some event ↔ event ∈ store.events ∧ event.id = id := by
  constructor
  · intro found
    exact ⟨List.mem_of_find?_eq_some found, by simpa using List.find?_some found⟩
  · rintro ⟨stored, rfl⟩
    obtain ⟨other, found⟩ : ∃ other, store.get? event.id = some other := by
      rw [← Option.isSome_iff_exists, get?, List.find?_isSome]
      exact ⟨event, stored, by simp⟩
    have same : other.id = event.id := by simpa using List.find?_some found
    rw [found, store.eq_of_id_eq (List.mem_of_find?_eq_some found) stored same]

/-- The known numbers are those from one to the number of events. -/
theorem isSome_get?_iff {id : Int} :
    (store.get? id).isSome = true ↔ 1 ≤ id ∧ id ≤ store.size := by
  have known : (store.get? id).isSome = true ↔ id ∈ store.events.map (·.id) := by
    rw [get?, List.find?_isSome, List.mem_map]
    simp only [decide_eq_true_eq]
  rw [known, map_id_events, List.mem_map]
  simp only [List.mem_range]
  constructor
  · rintro ⟨index, inside, rfl⟩
    omega
  · rintro ⟨positive, inside⟩
    exact ⟨(id - 1).toNat, by omega, by omega⟩

theorem mem_candidates {search : Search} {range : TimeRange} {event : Event} :
    event ∈ store.candidates search range ↔
      event ∈ store.events ∧ range.contains event.timestamp = true ∧
        search.admits event.source event.host = true := by
  rw [candidates, (Event.perm_newestFirst _).mem_iff, List.mem_filter, Bool.and_eq_true]

/-- Candidates come strictly in the order of results. -/
theorem pairwise_candidates (search : Search) (range : TimeRange) :
    (store.candidates search range).Pairwise fun first second =>
      first.ref.Precedes second.ref := by
  refine Event.pairwise_precedes_newestFirst _ ?_
  exact (nodup_map_id_events store).sublist (List.filter_sublist.map _)

theorem nodup_map_id_candidates (search : Search) (range : TimeRange) :
    ((store.candidates search range).map (·.id)).Nodup := by
  refine ((Event.perm_newestFirst _).map _).nodup_iff.mpr ?_
  exact (nodup_map_id_events store).sublist (List.filter_sublist.map _)

theorem nodup_map_id_of_surrounding {id : Int} {count : Nat} {events : List Event}
    (found : store.surrounding id count = .ok events) : (events.map (·.id)).Nodup := by
  unfold surrounding at found
  split at found
  · cases found
  · obtain rfl := Except.ok.inj found
    refine List.Nodup.sublist (((List.drop_sublist _ _).trans (List.take_sublist _ _)).map _) ?_
    refine ((Event.perm_newestFirst _).map _).nodup_iff.mpr ?_
    exact (nodup_map_id_events store).sublist (List.filter_sublist.map _)

@[simp] theorem flatten_pages (search : Search) (range : TimeRange) :
    (store.pages search range).flatten = store.candidates search range :=
  flatten_paginate _

end LogQuery.EventStore
