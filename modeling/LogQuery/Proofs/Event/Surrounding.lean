import LogQuery.Proofs.Event.Store

/-!
# Events around an event

The events around an event are a stretch of the events of its source in the order of results: as
many as may be newer directly in front of the event, and then as many from the event on.  Computed
in words of 64 bits, the bounds of the stretch neither overflow nor leave the events of the source.
-/

namespace LogQuery

/-! ## Bounds in words -/

/-- The difference of two words, or zero where it would be negative. -/
def subWords (first second : UInt64) : UInt64 :=
  if second ≤ first then first - second else 0

/-- The sum of two words, unless it does not fit into a word. -/
def addWords? (first second : UInt64) : Option UInt64 :=
  if first.toNat + second.toNat < UInt64.size then some (first + second) else none

theorem toNat_subWords (first second : UInt64) :
    (subWords first second).toNat = first.toNat - second.toNat := by
  unfold subWords
  split
  · next inOrder => exact UInt64.toNat_sub_of_le first second inOrder
  · next outOfOrder =>
      rw [UInt64.le_iff_toNat_le] at outOfOrder
      exact (Nat.sub_eq_zero_of_le (Nat.le_of_not_le outOfOrder)).symm

theorem exists_addWords?_eq_some (first second : UInt64)
    (fits : first.toNat + second.toNat < UInt64.size) :
    ∃ sum, addWords? first second = some sum ∧ sum.toNat = first.toNat + second.toNat :=
  ⟨first + second, if_pos fits, (UInt64.toNat_add first second).trans (Nat.mod_eq_of_lt fits)⟩

theorem toNat_min (first second : UInt64) :
    (min first second).toNat = min first.toNat second.toNat := by
  change (if first ≤ second then first else second).toNat = _
  rw [apply_ite UInt64.toNat, Nat.min_def]
  simp only [UInt64.le_iff_toNat_le]

section Stretch

variable {α : Type}

/-- The entries between two places, unless these are out of order or outside the list. -/
def between? (start stop : UInt64) (items : List α) : Option (List α) :=
  if start ≤ stop ∧ stop.toNat ≤ items.length then
    some ((items.take stop.toNat).drop start.toNat)
  else none

/-- The stretch of a list around a place, with bounds that are computed in words. -/
def stretch? (items : List α) (position count : UInt64) : Option (List α) := do
  let half := count / 2
  let stop ← addWords? position half
  between? (subWords position half) (min stop (.ofNat items.length)) items

/-- In a list that fits into memory the bounds are exact and in place. -/
theorem stretch?_eq_some {items : List α} {position count : UInt64}
    (fits : items.length < UInt64.size / 2) (inside : position.toNat < items.length) :
    stretch? items position count =
      some ((items.take (position.toNat + count.toNat / 2)).drop
        (position.toNat - count.toNat / 2)) := by
  have half_eq : (count / 2).toNat = count.toNat / 2 := UInt64.toNat_div count 2
  have count_lt := count.toNat_lt_size
  have length_eq : (UInt64.ofNat items.length).toNat = items.length :=
    UInt64.toNat_ofNat_of_lt' (Nat.lt_trans fits (by decide))
  obtain ⟨stop, added, stop_eq⟩ := exists_addWords?_eq_some position (count / 2) (by omega)
  let first := subWords position (count / 2)
  let last := min stop (.ofNat items.length)
  have first_eq : first.toNat = position.toNat - (count / 2).toNat := toNat_subWords _ _
  have last_eq : last.toNat = min stop.toNat items.length := by
    rw [toNat_min, length_eq]
  have inPlace : between? first last items = some ((items.take last.toNat).drop first.toNat) :=
    if_pos ⟨UInt64.le_iff_toNat_le.mpr (by omega), by omega⟩
  have stretch_eq : stretch? items position count =
      (addWords? position (count / 2)).bind fun stop =>
        between? first (min stop (.ofNat items.length)) items := rfl
  rw [stretch_eq, added, Option.bind_some, inPlace, first_eq, last_eq, stop_eq, half_eq,
    ← List.take_eq_take_min]

/-- A stretch that goes as far to both sides of a place takes the end of what stands in front of it
and the beginning of what stands behind. -/
theorem drop_take_append (front back : List α) (half : Nat) :
    ((front ++ back).take (front.length + half)).drop (front.length - half) =
      front.drop (front.length - half) ++ back.take half := by
  rw [List.take_length_add_append, List.drop_append_of_le_length (Nat.sub_le _ _)]

end Stretch

/-! ## Events of one source -/

namespace EventStore

/-- The events of the source of an event in the order of results: the newer ones stand in front of
it and the older ones behind. -/
structure StandsBetween (store : EventStore) (newer : List Event) (target : Event)
    (older : List Event) : Prop where
  perm : (newer ++ target :: older).Perm (store.events.filter (·.source = target.source))
  inOrder : (newer ++ target :: older).Pairwise fun first second => first.ref.Precedes second.ref

/-- The events around an event as `surrounding` finds them, but with the bounds computed in words;
nothing where these overflow or leave the list. -/
def surroundingInWords? (store : EventStore) (id : Int) (count : UInt64) :
    Option (Except UnknownEvent (List Event)) :=
  match store.get? id with
  | none => some (.error ⟨id⟩)
  | some target =>
      let sameSource := Event.newestFirst (store.events.filter (·.source = target.source))
      match sameSource.findIdx? (·.id = id) with
      | none => some (.error ⟨id⟩)
      | some position => (stretch? sameSource (.ofNat position) count).map .ok

variable {store : EventStore} {id : Int} {target : Event}

theorem surrounding_of_unknown (unknown : store.get? id = none) (count : Nat) :
    store.surrounding id count = .error ⟨id⟩ := by
  rw [surrounding, unknown]

/-- An event has its place among the events of its source. -/
theorem exists_standsBetween (stored : target ∈ store.events) :
    ∃ newer older, Event.newestFirst (store.events.filter (·.source = target.source)) =
        newer ++ target :: older ∧ store.StandsBetween newer target older := by
  let sameSource := store.events.filter (·.source = target.source)
  have perm := Event.perm_newestFirst sameSource
  have member : target ∈ Event.newestFirst sameSource :=
    perm.mem_iff.mpr (List.mem_filter.mpr ⟨stored, by simp⟩)
  have distinct : (sameSource.map (·.id)).Nodup :=
    (nodup_map_id_events store).sublist (List.filter_sublist.map _)
  have inOrder := Event.pairwise_precedes_newestFirst sameSource distinct
  obtain ⟨newer, older, split⟩ := List.append_of_mem member
  rw [split] at perm inOrder
  exact ⟨newer, older, split, perm, inOrder⟩

namespace StandsBetween

variable {newer older : List Event} (stands : store.StandsBetween newer target older)

include stands

/-- Events in front of another one have other numbers. -/
theorem id_ne_of_mem {event : Event} (isNewer : event ∈ newer) : event.id ≠ target.id := by
  intro same
  have precedes := (List.pairwise_append.mp stands.inOrder).2.2 event isNewer target
    List.mem_cons_self
  have stored {other : Event} (member : other ∈ newer ++ target :: older) :
      other ∈ store.events :=
    (List.mem_filter.mp (stands.perm.mem_iff.mp member)).1
  have equal := store.eq_of_id_eq (stored (List.mem_append_left _ isNewer))
    (stored (List.mem_append_right _ List.mem_cons_self)) same
  exact (EventRef.precedes_iff.mp precedes).2 (congrArg Event.ref equal)

/-- An event stands where the first event of its number does. -/
theorem findIdx?_eq :
    (newer ++ target :: older).findIdx? (fun event => decide (event.id = target.id)) =
      some newer.length := by
  have noneNewer : newer.findIdx? (fun event => decide (event.id = target.id)) = none :=
    List.findIdx?_eq_none_iff.mpr fun event isNewer => decide_eq_false (stands.id_ne_of_mem isNewer)
  rw [List.findIdx?_append, noneNewer, Option.none_or, List.findIdx?_cons,
    if_pos (decide_eq_true rfl), Option.map_some, Nat.zero_add]

theorem length_le_size : (newer ++ target :: older).length ≤ store.size := by
  rw [stands.perm.length_eq]
  exact Nat.le_trans (List.length_filter_le _ _) (Nat.le_of_eq List.length_mapIdx)

/-- The window around an event holds it exactly if half of its size is not zero. -/
theorem mem_window_iff {half : Nat} {near : List Event} (isNear : near <:+ newer) :
    target ∈ near ++ (target :: older).take half ↔ 1 ≤ half := by
  have notNear : target ∉ near := fun member => stands.id_ne_of_mem (isNear.subset member) rfl
  rw [List.mem_append, or_iff_right notNear]
  cases half with
  | zero => simp
  | succ half => simp

end StandsBetween

/-- What is found around an event that is stored, and how the bounds are computed. -/
theorem exists_surrounding_eq (found : store.get? id = some target) :
    ∃ newer older, store.StandsBetween newer target older ∧
      (∀ count, store.surrounding id count =
        .ok (newer.drop (newer.length - count / 2) ++ (target :: older).take (count / 2))) ∧
      (store.size < UInt64.size / 2 → ∀ count, store.surroundingInWords? id count =
        some (store.surrounding id count.toNat)) := by
  obtain ⟨stored, rfl⟩ := store.get?_eq_some_iff.mp found
  obtain ⟨newer, older, split, stands⟩ := exists_standsBetween stored
  have place := stands.findIdx?_eq
  obtain ⟨inside, place_eq⟩ := List.findIdx?_eq_some_iff_findIdx_eq.mp place
  have surrounding_eq (count : Nat) : store.surrounding target.id count =
      .ok (((newer ++ target :: older).take (newer.length + count / 2)).drop
        (newer.length - count / 2)) := by
    rw [surrounding, found]
    dsimp only
    rw [split, place_eq]
  refine ⟨newer, older, stands, ?_, ?_⟩
  · intro count
    rw [surrounding_eq, drop_take_append]
  · intro fits count
    have fitsToo := Nat.lt_of_le_of_lt stands.length_le_size fits
    have position_eq : (UInt64.ofNat newer.length).toNat = newer.length :=
      UInt64.toNat_ofNat_of_lt' (Nat.lt_trans (Nat.lt_trans inside fitsToo) (by decide))
    have exact_stretch : stretch? (newer ++ target :: older) (.ofNat newer.length) count = _ :=
      stretch?_eq_some fitsToo (by rwa [position_eq])
    rw [position_eq] at exact_stretch
    rw [surroundingInWords?, found, surrounding_eq]
    dsimp only
    rw [split, place]
    exact congrArg (Option.map Except.ok) exact_stretch

/-- Add events to a store and look for the events around one of them.  None are found exactly if
there is no event of this number.  Otherwise take the events of its source from the newest to the
oldest: what is found are the newer ones directly in front of the event, followed by the event and
the older ones directly behind it, half of `count` of either or as many as there are.  So the event
itself is found exactly if `count` is at least two, and there are no more than `count` events.  If
the log fits into memory, the same comes out with bounds that are computed in words of 64 bits:
these never overflow and never leave the list. -/
theorem surrounding_events_are_a_window (pageSize : Nat) (added : List NewEvent) (id : Int)
    (count : Nat) :
    let store := (empty pageSize).addAll added
    let half := count / 2
    (store.surrounding id count = .error ⟨id⟩ ↔ ¬ (1 ≤ id ∧ id ≤ added.length)) ∧
      (1 ≤ id ∧ id ≤ added.length → ∃ newer target older near behind,
        store.StandsBetween newer target older ∧ target.id = id ∧
          store.surrounding id count = .ok (near ++ behind) ∧
          near <:+ newer ∧ near.length = min half newer.length ∧
          behind <+: target :: older ∧ behind.length = min half (target :: older).length ∧
          (target ∈ near ++ behind ↔ 2 ≤ count) ∧ (near ++ behind).length ≤ count) ∧
      (added.length < UInt64.size / 2 → ∀ counter : UInt64, counter.toNat = count →
        store.surroundingInWords? id counter = some (store.surrounding id count)) := by
  intro store half
  have size_eq : store.size = added.length :=
    (size_addAll (empty pageSize) added).trans (Nat.zero_add _)
  have known_iff : (store.get? id).isSome = true ↔ 1 ≤ id ∧ id ≤ added.length := by
    rw [store.isSome_get?_iff, size_eq]
  rw [← known_iff]
  cases found : store.get? id with
  | none =>
      refine ⟨iff_of_true (surrounding_of_unknown found count) Bool.false_ne_true, ?_, ?_⟩
      · intro known
        cases known
      · intro fits counter counts
        rw [surroundingInWords?, found, surrounding_of_unknown found]
  | some target =>
      obtain ⟨newer, older, stands, surrounding_eq, words_eq⟩ := exists_surrounding_eq found
      let near := newer.drop (newer.length - half)
      let behind := (target :: older).take half
      have isNear : near <:+ newer := List.drop_suffix _ newer
      have near_length : near.length = min half newer.length := by
        rw [List.length_drop]
        omega
      have behind_length : behind.length = min half (target :: older).length := List.length_take
      refine ⟨?_, fun _ => ⟨newer, target, older, near, behind, stands, ?_, surrounding_eq count,
        isNear, near_length, List.take_prefix _ _, behind_length, ?_, ?_⟩, ?_⟩
      · rw [surrounding_eq]
        simp
      · exact (store.get?_eq_some_iff.mp found).2
      · rw [stands.mem_window_iff isNear]
        omega
      · rw [List.length_append, near_length, behind_length]
        omega
      · rintro fits counter rfl
        exact words_eq (by rwa [size_eq]) counter

-- The third event is the newer one of its time, and the second one has another source.
example :
    let store := (empty 500).addAll
      [⟨"a", .ofMillis 5, "h", "s"⟩, ⟨"b", .ofMillis 5, "h", "t"⟩, ⟨"c", .ofMillis 5, "h", "s"⟩,
        ⟨"d", .ofMillis 1, "h", "s"⟩]
    (store.surrounding 1 3).map (List.map (·.id)) = .ok [3, 1] ∧
      (store.surrounding 1 9).map (List.map (·.id)) = .ok [3, 1, 4] := by
  intro store
  refine ⟨?_, ?_⟩
  · cbv
  · cbv

end EventStore

end LogQuery
