import LogQuery.Proofs.Job.Calls

/-!
# What holds of every stored record

Calls touch a record in one way only: a change to its job updates it.  What holds of new records and
is kept by every update therefore holds of every record that is ever stored.
-/

namespace LogQuery

namespace JobStore

/-- Something holds of each stored record. -/
def Each (Holds : JobRecord → Prop) (store : JobStore) : Prop :=
  ∀ id record, store.record? id = some record → Holds record

variable {store : JobStore} {id : Int} {write : StoreWrite} {Holds : JobRecord → Prop}

/-- A change is made or has no effect. -/
theorem serve_write_cases (store : JobStore) (about : write.job? = some id) :
    store.change id write.update = .ok (store.serve (.write write)).2 ∨
      (store.serve (.write write)).2 = store := by
  rw [serve, write_eq_modify about]
  cases outcome : (store.modify id write.update).1 with
  | ok done => exact .inl (change_eq_ok_iff_modify.mpr (Prod.ext outcome rfl))
  | error error => exact .inr (modify_snd_of_error outcome)

theorem each_empty : Each Holds empty := by
  intro id record found
  have stored := isSome_record?_iff.mp (Option.isSome_of_eq_some found)
  rw [empty, List.length_nil] at stored
  omega

theorem Each.insert (each : Each Holds store) (fresh : ∀ job, Holds { job }) (job : NewJob) :
    Each Holds (store.insert job).2 := by
  intro id record found
  rw [record?_insert] at found
  split at found
  · obtain rfl := Option.some.inj found
    exact fresh job
  · exact each id record found

theorem Each.change (each : Each Holds store) {update : JobRecord → JobRecord}
    (kept : ∀ record, Holds record → Holds (update record)) {changed : JobStore}
    (made : store.change id update = .ok changed) : Each Holds changed := by
  intro other record found
  rw [record?_of_change made] at found
  split at found
  · obtain ⟨before, foundBefore, rfl⟩ := Option.map_eq_some_iff.mp found
    exact kept before (each id before foundBefore)
  · exact each other record found

section Calls

variable (fresh : ∀ job, Holds { job })
  (kept : ∀ (write : StoreWrite) record, Holds record → Holds (write.update record))

include fresh kept

theorem Each.serve (each : Each Holds store) (call : StoreCall) :
    Each Holds (store.serve call).2 := by
  cases call with
  | ask question => exact each
  | write write =>
      cases about : write.job? with
      | none =>
          cases write with
          | insert job => exact each.insert fresh job
          | addResults | addRows | addCounts | setState => cases about
      | some id =>
          rcases serve_write_cases store about with made | unchanged
          · exact each.change (kept write) made
          · rw [unchanged]
            exact each

/-- What holds of new records and is kept by every update holds of every record of a store. -/
theorem each_serveAll (calls : List StoreCall) : Each Holds (empty.serveAll calls) := by
  have run {store : JobStore} (each : Each Holds store) : Each Holds (store.serveAll calls) := by
    induction calls generalizing store with
    | nil => exact each
    | cons call calls inductionHypothesis =>
        exact inductionHypothesis (each.serve fresh kept call)
  exact run each_empty

end Calls

end JobStore

end LogQuery
