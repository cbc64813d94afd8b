import LogQuery.Job.Connection
import LogQuery.Proofs.Outcome

/-!
# Changes to stored jobs

A change concerns the record of one running job; it succeeds whenever there is such a job and the
connection works, and every other record stays as it is.
-/

namespace LogQuery

namespace JobState

theorem isTerminal_eq_false_iff {state : JobState} :
    state.isTerminal = false ↔ state = .running := by
  cases state <;> decide

theorem isTerminal_iff {state : JobState} : state.isTerminal = true ↔ state ≠ .running := by
  rw [ne_eq, ← isTerminal_eq_false_iff, Bool.not_eq_false]

end JobState

namespace JobStore

variable {store changed : JobStore} {id : Int} {record : JobRecord} {update : JobRecord → JobRecord}

theorem record?_eq_some_iff :
    store.record? id = some record ↔
      1 ≤ id ∧ store.records[(id - 1).toNat]? = some record := by
  unfold record? position?
  by_cases positive : 1 ≤ id
  · simp [positive]
  · simp [positive]

theorem record_eq_ok_iff : store.record id = .ok record ↔ store.record? id = some record := by
  unfold JobStore.record
  cases store.record? id with
  | none => simp
  | some found => simp

/-- What comes of an update in place: it is made, or refused with the record left as it is. -/
theorem modify_of_found (found : store.record? id = some record) :
    store.modify id update =
      if record.state.isTerminal then (.error (.jobTerminated id record.state), store)
      else (.ok (), { records := store.records.set (id - 1).toNat (update record) }) := by
  rw [modify, withRecord, found]
  dsimp only
  rw [JobRecord.updateRunning, JobRecord.ensureRunning]
  cases record.state.isTerminal with
  | true =>
      obtain ⟨-, stored⟩ := record?_eq_some_iff.mp found
      obtain ⟨inside, stored⟩ := List.getElem?_eq_some_iff.mp stored
      have unchanged : store.records.set (id - 1).toNat record = store.records := by
        rw [← stored, List.set_getElem_self]
      simp only [if_true, unchanged]
  | false => rfl

theorem modify_of_missing (missing : store.record? id = none) :
    store.modify id update = (.error (.jobNotFound id), store) := by
  rw [modify, withRecord, missing]

/-- An update that fails leaves the store as it is, since it fails before it does anything. -/
theorem modify_snd_of_error {error : StoreError} (fails : (store.modify id update).1 = .error error) :
    (store.modify id update).2 = store := by
  cases found : store.record? id with
  | none => rw [modify_of_missing found]
  | some record =>
      rw [modify_of_found found] at fails ⊢
      split at fails
      · next ended => rw [if_pos ended]
      · cases fails

/-- A change succeeds exactly if the job is running, and it sets the record of the job. -/
theorem change_eq_ok_iff :
    store.change id update = .ok changed ↔
      ∃ record, store.record? id = some record ∧ record.state = .running ∧
        changed = { records := store.records.set (id - 1).toNat (update record) } := by
  rw [change]
  cases found : store.record? id with
  | none =>
      rw [modify_of_missing found]
      simp
  | some record =>
      rw [modify_of_found found]
      cases ended : record.state.isTerminal with
      | false =>
          have running := JobState.isTerminal_eq_false_iff.mp ended
          simp [running, eq_comm]
      | true =>
          have notRunning := JobState.isTerminal_iff.mp ended
          simp [notRunning]

theorem change_eq_ok_iff_modify :
    store.change id update = .ok changed ↔ store.modify id update = (.ok (), changed) := by
  rw [change]
  split
  · next made => simp [made]
  · next refused => simp [refused]

/-- The record of the job is updated, and all others stay. -/
theorem record?_of_change (succeeds : store.change id update = .ok changed) (other : Int) :
    changed.record? other =
      if other = id then (store.record? id).map update else store.record? other := by
  obtain ⟨record, found, -, rfl⟩ := change_eq_ok_iff.mp succeeds
  obtain ⟨positive, stored⟩ := record?_eq_some_iff.mp found
  split
  · next same =>
      rw [same, found, Option.map_some, record?_eq_some_iff]
      refine ⟨positive, ?_⟩
      rw [List.getElem?_set_self (List.getElem?_eq_some_iff.mp stored).1]
  · next different =>
      unfold record? position?
      by_cases otherPositive : 1 ≤ other
      · rw [if_pos otherPositive, Option.bind_some, Option.bind_some, List.getElem?_set_ne]
        omega
      · rw [if_neg otherPositive]
        rfl

/-- A new job has a record of its own, and all others stay. -/
theorem record?_insert (store : JobStore) (job : NewJob) (other : Int) :
    (store.insert job).2.record? other =
      if other = (store.insert job).1 then some { job } else store.record? other := by
  unfold record? position? insert
  dsimp only
  by_cases positive : 1 ≤ other
  · rw [if_pos positive, Option.bind_some, Option.bind_some, List.getElem?_append]
    split
    · next before =>
        rw [if_neg (by omega)]
    · next after =>
        split
        · next same =>
            rw [show (other - 1).toNat - store.records.length = 0 by omega]
            rfl
        · next different =>
            rw [List.getElem?_eq_none (by simp only [List.length_singleton]; omega),
              List.getElem?_eq_none (by omega)]
  · rw [if_neg positive, if_neg (by omega), Option.bind_none, Option.bind_none]

theorem record?_insert_self (store : JobStore) (job : NewJob) :
    (store.insert job).2.record? (store.insert job).1 = some { job } := by
  rw [record?_insert, if_pos rfl]

/-- The stored jobs have the numbers from one on. -/
theorem isSome_record?_iff :
    (store.record? id).isSome = true ↔ 1 ≤ id ∧ id ≤ store.records.length := by
  unfold record? position?
  by_cases positive : 1 ≤ id
  · rw [if_pos positive, Option.bind_some, isSome_getElem?]
    omega
  · rw [if_neg positive]
    exact iff_of_false Bool.false_ne_true fun holds => positive holds.1

/-- The number of a new job belongs to no other. -/
theorem record?_insert_fst (store : JobStore) (job : NewJob) :
    store.record? (store.insert job).1 = none := by
  rw [← Option.not_isSome_iff_eq_none, isSome_record?_iff]
  intro holds
  exact absurd holds.2 (by simp only [insert]; omega)

theorem record?_insert_of_found (job : NewJob) (found : store.record? id = some record) :
    (store.insert job).2.record? id = some record := by
  rw [record?_insert, if_neg]
  · exact found
  · rintro rfl
    rw [record?_insert_fst] at found
    cases found

end JobStore

namespace JobConnection

variable {connection : JobConnection} {id : Int} {record : JobRecord}

/-- If requests of a kind do not fail at present, a change to a running job succeeds. -/
theorem apply_change_of_running {request : StoreRequest} (update : JobRecord → JobRecord)
    (works : connection.outage request = none)
    (found : connection.store.record? id = some record) (running : record.state = .running) :
    ∃ changed, connection.apply request (connection.store.change id update) = .ok changed ∧
      changed.outage = connection.outage ∧ changed.store.record? id = some (update record) := by
  obtain ⟨changed, succeeds⟩ : ∃ changed, connection.store.change id update = .ok changed :=
    ⟨_, JobStore.change_eq_ok_iff.mpr ⟨record, found, running, rfl⟩⟩
  refine ⟨{ connection with store := changed }, ?_, rfl, ?_⟩
  · unfold apply attempt
    rw [works, succeeds]
    rfl
  · rw [JobStore.record?_of_change succeeds, if_pos rfl, found]
    rfl

/-- A change that has succeeded has updated the record of its job, and no other. -/
theorem record?_of_apply_change {request : StoreRequest} {update : JobRecord → JobRecord}
    {changed : JobConnection}
    (succeeds : connection.apply request (connection.store.change id update) = .ok changed)
    (other : Int) :
    changed.store.record? other =
      if other = id then (connection.store.record? id).map update
      else connection.store.record? other := by
  unfold apply attempt at succeeds
  split at succeeds
  · cases succeeds
  · obtain ⟨store, stored, rfl⟩ := map_eq_ok_iff.mp succeeds
    exact JobStore.record?_of_change stored other

end JobConnection

end LogQuery
