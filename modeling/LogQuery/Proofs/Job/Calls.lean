import LogQuery.Proofs.Job.Store

/-!
# Calls to a store of jobs

A call writes to a store or asks it something.  `JobStore.Served` says once what may become of a
call, and everything that holds after any number of calls follows from it: jobs are numbered in the
order in which they are inserted, a call leaves alone whatever it is not about, the record of a job
that has ended stays for good, and a call that fails has no effect.
-/

namespace LogQuery

/-- A change to a store of jobs. -/
inductive StoreWrite where
  | insert (job : NewJob)
  | addResults (id : Int) (refs : List EventRef)
  | addRows (id : Int) (rows : List TableRow)
  | addCounts (id : Int) (counts : List FieldCount)
  | setState (id : Int) (state : JobState)

/-- A question about a stored job. -/
inductive StoreQuestion where
  | get (id : Int)
  | results (id : Int) (skip : Nat) (take? : Option Nat)
  | rows (id : Int) (skip : Nat) (take? : Option Nat)
  | fieldOccurrences (id : Int)
  | fieldValues (id : Int) (field : String)
  | matchedEvents (id : Int)
  | stats (id : Int)

/-- What a store of jobs is called for. -/
inductive StoreCall where
  | write (write : StoreWrite)
  | ask (question : StoreQuestion)

/-- What a call gives that succeeds. -/
inductive StoreReply where
  | inserted (id : Int)
  | done
  | job (job : Job)
  | results (refs : List EventRef)
  | rows (rows : List TableRow)
  | fieldOccurrences (occurrences : List (String × Nat))
  | fieldValues (values : Std.ExtTreeMap String Int compare)
  | matchedEvents (count : Int)
  | stats (stats : JobStats)

/-- What a change does to the record of the job that it is about. -/
def StoreWrite.update : StoreWrite → JobRecord → JobRecord
  | .insert _ => id
  | .addResults _ refs => .addResults refs
  | .addRows _ rows => .addRows rows
  | .addCounts _ counts => .addCounts counts
  | .setState _ state => .setState state

/-- The stored job that a change is about; an insertion is about none. -/
def StoreWrite.job? : StoreWrite → Option Int
  | .insert _ => none
  | .addResults id _ | .addRows id _ | .addCounts id _ | .setState id _ => some id

/-- The job that a question is about. -/
def StoreQuestion.job : StoreQuestion → Int
  | .get id | .results id _ _ | .rows id _ _ | .fieldOccurrences id | .fieldValues id _
  | .matchedEvents id | .stats id => id

/-- The stored job that a call is about. -/
def StoreCall.job? : StoreCall → Option Int
  | .write change => change.job?
  | .ask question => some question.job

/-- Whether a call inserts a job. -/
def StoreCall.inserts : StoreCall → Bool
  | .write (.insert _) => true
  | _ => false

/-- A call that is about a stored job inserts none. -/
theorem StoreCall.inserts_eq_false {call : StoreCall} {id : Int} (about : call.job? = some id) :
    call.inserts = false := by
  cases call with
  | ask question => rfl
  | write change =>
      cases change with
      | insert job => cases about
      | addResults | addRows | addCounts | setState => rfl

namespace JobStore

/-- Make a change: what comes of it, and the store that it leaves. -/
def write (store : JobStore) (change : StoreWrite) : Except StoreError StoreReply × JobStore :=
  match change with
  | .insert job => (.ok (.inserted (store.insert job).1), (store.insert job).2)
  | .addResults id _ | .addRows id _ | .addCounts id _ | .setState id _ =>
      let (outcome, changed) := store.modify id change.update
      (outcome.map fun _ => .done, changed)

/-- Answer a question. -/
def answer (store : JobStore) : StoreQuestion → Except StoreError StoreReply
  | .get id => (store.get id).map .job
  | .results id skip take? => (store.results id skip take?).map .results
  | .rows id skip take? => (store.rows id skip take?).map .rows
  | .fieldOccurrences id => (store.fieldOccurrences id).map .fieldOccurrences
  | .fieldValues id field => (store.fieldValues id field).map .fieldValues
  | .matchedEvents id => (store.matchedEvents id).map .matchedEvents
  | .stats id => (store.stats id).map .stats

/-- What a call gives, and the store behind it. -/
def serve (store : JobStore) : StoreCall → Except StoreError StoreReply × JobStore
  | .write change => store.write change
  | .ask question => (store.answer question, store)

/-- The store behind calls. -/
def serveAll (store : JobStore) (calls : List StoreCall) : JobStore :=
  calls.foldl (fun store call => (store.serve call).2) store

/-- What may become of a call. -/
inductive Served (store : JobStore) :
    StoreCall → Except StoreError StoreReply → JobStore → Prop where
  /-- It inserts a job. -/
  | inserted (job : NewJob) :
      Served store (.write (.insert job)) (.ok (.inserted (store.insert job).1))
        (store.insert job).2
  /-- It changes a job that is running. -/
  | changed {write : StoreWrite} {id : Int} {record : JobRecord} {update : JobRecord → JobRecord}
      {changed : JobStore} (about : write.job? = some id) (found : store.record? id = some record)
      (running : record.state = .running) (made : store.change id update = .ok changed) :
      Served store (.write write) (.ok .done) changed
  /-- It is answered. -/
  | answered {question : StoreQuestion} {record : JobRecord} (reply : StoreReply)
      (found : store.record? question.job = some record) :
      Served store (.ask question) (.ok reply) store
  /-- It is about a job that is not stored. -/
  | notFound {call : StoreCall} {id : Int} (about : call.job? = some id)
      (missing : store.record? id = none) : Served store call (.error (.jobNotFound id)) store
  /-- It would change a job that has ended. -/
  | terminated {write : StoreWrite} {id : Int} {record : JobRecord} (about : write.job? = some id)
      (found : store.record? id = some record) (ended : record.state.isTerminal = true) :
      Served store (.write write) (.error (.jobTerminated id record.state)) store

/-! ## One call -/

section OneCall

variable {store : JobStore} {id : Int}

theorem record_eq_error (missing : store.record? id = none) :
    store.record id = .error (.jobNotFound id) := by
  rw [record, missing]

theorem write_eq_modify {write : StoreWrite} (about : write.job? = some id) :
    store.write write =
      ((store.modify id write.update).1.map fun _ => .done, (store.modify id write.update).2) := by
  cases write with
  | insert job => cases about
  | addResults other refs | addRows other rows | addCounts other counts | setState other state =>
      obtain rfl := Option.some.inj about
      rfl

/-- A change is made, or there is no such job, or it has ended. -/
theorem served_of_write {write : StoreWrite} (about : write.job? = some id) :
    store.Served (.write write) (store.serve (.write write)).1 (store.serve (.write write)).2 := by
  rw [serve, write_eq_modify about]
  cases found : store.record? id with
  | none =>
      rw [modify_of_missing found]
      exact .notFound about found
  | some record =>
      rw [modify_of_found found]
      split
      · next ended => exact .terminated about found ended
      · next goesOn =>
          have running : record.state = .running :=
            JobState.isTerminal_eq_false_iff.mp (Bool.eq_false_iff.mpr goesOn)
          exact .changed about found running
            (change_eq_ok_iff.mpr ⟨record, found, running, rfl⟩)

/-- A question about a stored job has an answer. -/
theorem served_of_answer_eq {question : StoreQuestion} {α : Type} {read : JobRecord → α}
    {reply : α → StoreReply}
    (answer_eq : store.answer question =
      (store.record question.job >>= fun record => .ok (read record)).map reply) :
    store.Served (.ask question) (store.serve (.ask question)).1
      (store.serve (.ask question)).2 := by
  rw [serve, answer_eq]
  cases found : store.record? question.job with
  | none =>
      rw [record_eq_error found]
      exact .notFound rfl found
  | some record =>
      rw [record_eq_ok_iff.mpr found]
      exact .answered (reply (read record)) found

/-- Every call is served in one of these ways. -/
theorem served (store : JobStore) (call : StoreCall) :
    store.Served call (store.serve call).1 (store.serve call).2 := by
  cases call with
  | write write =>
      cases write with
      | insert job => exact .inserted job
      | addResults | addRows | addCounts | setState => exact served_of_write rfl
  | ask question =>
      cases question with
      | get id => exact served_of_answer_eq rfl
      | results id skip take? => exact served_of_answer_eq rfl
      | rows id skip take? => exact served_of_answer_eq rfl
      | fieldOccurrences id => exact served_of_answer_eq rfl
      | fieldValues id field => exact served_of_answer_eq rfl
      | matchedEvents id => exact served_of_answer_eq rfl
      | stats id => exact served_of_answer_eq rfl

end OneCall

namespace Served

variable {store changed : JobStore} {call : StoreCall} {outcome : Except StoreError StoreReply}
  {id other : Int} {record : JobRecord}

/-- Only an insertion makes the store longer. -/
theorem length_records (served : store.Served call outcome changed) :
    changed.records.length = store.records.length + (if call.inserts then 1 else 0) := by
  cases served with
  | inserted job => exact List.length_append
  | @changed write _ _ _ _ about _ _ made =>
      obtain ⟨record, -, -, rfl⟩ := change_eq_ok_iff.mp made
      have insertsNothing : (StoreCall.write write).inserts = false :=
        StoreCall.inserts_eq_false about
      rw [insertsNothing]
      exact List.length_set
  | answered reply found => rfl
  | notFound about missing =>
      rw [StoreCall.inserts_eq_false about]
      rfl
  | @terminated write _ _ about found ended =>
      have insertsNothing : (StoreCall.write write).inserts = false :=
        StoreCall.inserts_eq_false about
      rw [insertsNothing]
      rfl

/-- A call about one job leaves all others as they are, whether they are stored or not. -/
theorem record?_of_ne (served : store.Served call outcome changed) (about : call.job? = some id)
    (different : other ≠ id) : changed.record? other = store.record? other := by
  cases served with
  | inserted job => cases about
  | changed aboutToo found running made =>
      obtain rfl := Option.some.inj (about.symm.trans aboutToo)
      exact (record?_of_change made other).trans (if_neg different)
  | answered reply found => rfl
  | notFound aboutToo missing => rfl
  | terminated aboutToo found ended => rfl

/-- The record of a job that has ended stays. -/
theorem record?_of_isTerminal (served : store.Served call outcome changed)
    (found : store.record? id = some record) (ended : record.state.isTerminal = true) :
    changed.record? id = some record := by
  cases served with
  | inserted job => exact record?_insert_of_found job found
  | changed about foundToo running made =>
      rw [record?_of_change made]
      split
      · next same =>
          rw [same] at found
          obtain rfl := Option.some.inj (found.symm.trans foundToo)
          exact absurd running (JobState.isTerminal_iff.mp ended)
      · exact found
  | answered reply foundToo => exact found
  | notFound about missing => exact found
  | terminated about foundToo endedToo => exact found

/-- A change to a job that has ended is refused. -/
theorem outcome_eq_of_isTerminal {write : StoreWrite}
    (served : store.Served (.write write) outcome changed) (about : write.job? = some id)
    (found : store.record? id = some record) (ended : record.state.isTerminal = true) :
    outcome = .error (.jobTerminated id record.state) := by
  cases served with
  | inserted job => cases about
  | changed aboutToo foundToo running made =>
      obtain rfl := Option.some.inj (about.symm.trans aboutToo)
      obtain rfl := Option.some.inj (found.symm.trans foundToo)
      exact absurd running (JobState.isTerminal_iff.mp ended)
  | notFound aboutToo missing =>
      obtain rfl := Option.some.inj (about.symm.trans aboutToo)
      cases found.symm.trans missing
  | terminated aboutToo foundToo endedToo =>
      obtain rfl := Option.some.inj (about.symm.trans aboutToo)
      obtain rfl := Option.some.inj (found.symm.trans foundToo)
      rfl

/-- A call that fails has no effect, and it fails because its job is not stored or because it would
change a job that has ended. -/
theorem of_error {error : StoreError} (served : store.Served call (.error error) changed) :
    changed = store ∧ ∃ id, call.job? = some id ∧
      (store.record? id = none ∧ error = .jobNotFound id ∨
        ∃ write record, call = .write write ∧ store.record? id = some record ∧
          record.state.isTerminal = true ∧ error = .jobTerminated id record.state) := by
  cases served with
  | notFound about missing => exact ⟨rfl, _, about, .inl ⟨missing, rfl⟩⟩
  | terminated about found ended => exact ⟨rfl, _, about, .inr ⟨_, _, rfl, found, ended, rfl⟩⟩

end Served

/-! ## Any number of calls -/

/-- There are as many jobs more as have been inserted. -/
theorem length_records_serveAll (store : JobStore) (calls : List StoreCall) :
    (store.serveAll calls).records.length =
      store.records.length + calls.countP StoreCall.inserts := by
  induction calls generalizing store with
  | nil => rfl
  | cons call calls inductionHypothesis =>
      refine (inductionHypothesis (store.serve call).2).trans ?_
      rw [(store.served call).length_records, List.countP_cons, Nat.add_assoc, Nat.add_comm (ite _ _ _)]

theorem record?_serveAll_of_isTerminal {store : JobStore} {id : Int} {record : JobRecord}
    (found : store.record? id = some record) (ended : record.state.isTerminal = true)
    (calls : List StoreCall) : (store.serveAll calls).record? id = some record := by
  induction calls generalizing store with
  | nil => exact found
  | cons call calls inductionHypothesis =>
      exact inductionHypothesis ((store.served call).record?_of_isTerminal found ended)

/-- Let a store take any calls.  Its jobs have the numbers from one on, as many as have been
inserted; the next insertion gives the next number and leaves all stored jobs as they are.  A call
about a job leaves every other job as it is.  Of a job that has ended nothing changes any more, and
every change to it is refused.  A call that fails leaves the whole store as it is, and it fails
because its job is not stored or because it would change a job that has ended. -/
theorem stored_jobs_change_only_while_they_run (calls : List StoreCall) :
    let store := empty.serveAll calls
    let count : Int := calls.countP StoreCall.inserts
    (∀ id, (store.record? id).isSome = true ↔ 1 ≤ id ∧ id ≤ count) ∧
      (∀ job, ∃ changed,
        store.serve (.write (.insert job)) = (.ok (.inserted (count + 1)), changed) ∧
          changed.record? (count + 1) = some { job } ∧
          ∀ id record, store.record? id = some record → changed.record? id = some record) ∧
      (∀ call id other, call.job? = some id → other ≠ id →
        (store.serve call).2.record? other = store.record? other) ∧
      (∀ id record, store.record? id = some record → record.state.isTerminal = true →
        ∀ later, (store.serveAll later).record? id = some record ∧
          ∀ write, write.job? = some id →
            ((store.serveAll later).serve (.write write)).1 =
              .error (.jobTerminated id record.state)) ∧
      ∀ call error, (store.serve call).1 = .error error →
        (store.serve call).2 = store ∧ ∃ id, call.job? = some id ∧
          (store.record? id = none ∧ error = .jobNotFound id ∨
            ∃ write record, call = .write write ∧ store.record? id = some record ∧
              record.state.isTerminal = true ∧ error = .jobTerminated id record.state) := by
  intro store count
  have length_eq : (store.records.length : Int) = count := by
    rw [length_records_serveAll]
    exact congrArg Nat.cast (Nat.zero_add _)
  refine ⟨?_, ?_, ?_, ?_, ?_⟩
  · intro id
    rw [isSome_record?_iff, length_eq]
  · intro job
    have number_eq : (store.insert job).1 = count + 1 := congrArg (· + 1) length_eq
    refine ⟨(store.insert job).2, ?_, ?_, ?_⟩
    · rw [← number_eq]
      rfl
    · rw [record?_insert, if_pos number_eq.symm]
    · intro id record found
      exact record?_insert_of_found job found
  · intro call id other about different
    exact (store.served call).record?_of_ne about different
  · intro id record found ended later
    have foundLater := record?_serveAll_of_isTerminal found ended later
    refine ⟨foundLater, ?_⟩
    intro write about
    exact ((store.serveAll later).served (.write write)).outcome_eq_of_isTerminal about foundLater
      ended
  · intro call error fails
    have served := store.served call
    rw [fails] at served
    exact served.of_error

end JobStore

end LogQuery
