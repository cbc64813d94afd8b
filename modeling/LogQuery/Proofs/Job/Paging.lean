import LogQuery.Proofs.Event.Order
import LogQuery.Proofs.Job.Records
import LogQuery.Proofs.Job.Results

/-!
# The order of stored results and their pages

While a job runs its results only grow, by what is added to them.  Newest first, no two of them tie
unless they are equal, so what is shown depends on what has been added and not on when, or in how
many calls.  Rows are shown by number, and those of one number in the order in which they came.

Results are put in order before a window is cut out of them, so windows one behind the other show
all of them once.
-/

namespace LogQuery

/-! ## What calls add -/

namespace StoreCall

/-- The references that a call would add to a job. -/
def addedRefs (id : Int) : StoreCall → List EventRef
  | .write (.addResults other refs) => if other = id then refs else []
  | _ => []

/-- The rows that a call would add to a job. -/
def addedRows (id : Int) : StoreCall → List TableRow
  | .write (.addRows other rows) => if other = id then rows else []
  | _ => []

variable {id : Int} {call : StoreCall}

theorem addedRefs_eq_nil (unconcerned : call.job? ≠ some id) : call.addedRefs id = [] := by
  cases call with
  | ask question => rfl
  | write write =>
      cases write with
      | addResults other refs => exact if_neg fun same => unconcerned (congrArg some same)
      | insert | addRows | addCounts | setState => rfl

theorem addedRows_eq_nil (unconcerned : call.job? ≠ some id) : call.addedRows id = [] := by
  cases call with
  | ask question => rfl
  | write write =>
      cases write with
      | addRows other rows => exact if_neg fun same => unconcerned (congrArg some same)
      | insert | addResults | addCounts | setState => rfl

end StoreCall

namespace JobRecord

/-- The second record has these references and rows more. -/
structure Grows (refs : List EventRef) (rows : List TableRow) (before behind : JobRecord) :
    Prop where
  job : behind.job = before.job
  results : behind.results = before.results ++ refs
  rows : behind.rows = before.rows ++ rows

theorem grows_nil (record : JobRecord) : Grows [] [] record record where
  job := rfl
  results := (List.append_nil record.results).symm
  rows := (List.append_nil record.rows).symm

theorem Grows.trans {refs moreRefs : List EventRef} {rows moreRows : List TableRow}
    {before between behind : JobRecord} (first : Grows refs rows before between)
    (second : Grows moreRefs moreRows between behind) :
    Grows (refs ++ moreRefs) (rows ++ moreRows) before behind where
  job := second.job.trans first.job
  results := by rw [second.results, first.results, List.append_assoc]
  rows := by rw [second.rows, first.rows, List.append_assoc]

theorem grows_update {write : StoreWrite} {id : Int} (about : write.job? = some id)
    (record : JobRecord) :
    Grows (StoreCall.addedRefs id (.write write)) (StoreCall.addedRows id (.write write)) record
      (write.update record) := by
  cases write with
  | insert job => cases about
  | addResults other refs =>
      obtain rfl := Option.some.inj about
      exact ⟨rfl, congrArg (record.results ++ ·) (if_pos rfl).symm,
        (List.append_nil record.rows).symm⟩
  | addRows other rows =>
      obtain rfl := Option.some.inj about
      exact ⟨rfl, (List.append_nil record.results).symm,
        congrArg (record.rows ++ ·) (if_pos rfl).symm⟩
  | addCounts other counts =>
      exact ⟨rfl, (List.append_nil record.results).symm, (List.append_nil record.rows).symm⟩
  | setState other state =>
      exact ⟨rfl, (List.append_nil record.results).symm, (List.append_nil record.rows).symm⟩

end JobRecord

namespace JobStore

variable {store : JobStore} {id : Int} {record last : JobRecord}

/-- A call that is not about a stored job leaves it as it is. -/
theorem record?_serve_of_unconcerned (found : store.record? id = some record) {call : StoreCall}
    (unconcerned : call.job? ≠ some id) : (store.serve call).2.record? id = some record := by
  cases about : call.job? with
  | some other =>
      have different : id ≠ other := fun same => unconcerned (about.trans (congrArg some same.symm))
      exact ((store.served call).record?_of_ne about different).trans found
  | none =>
      cases call with
      | ask question => cases about
      | write write =>
          cases write with
          | insert job => exact record?_insert_of_found job found
          | addResults | addRows | addCounts | setState => cases about

/-- A call adds to a job that is running what it would add. -/
theorem exists_grows_serve (found : store.record? id = some record)
    (running : record.state = .running) (call : StoreCall) :
    ∃ behind, (store.serve call).2.record? id = some behind ∧
      record.Grows (call.addedRefs id) (call.addedRows id) behind := by
  by_cases about : call.job? = some id
  · cases call with
    | ask question => exact ⟨record, found, record.grows_nil⟩
    | write write =>
        obtain ⟨changed, made⟩ : ∃ changed, store.change id write.update = .ok changed :=
          ⟨_, change_eq_ok_iff.mpr ⟨record, found, running, rfl⟩⟩
        refine ⟨write.update record, ?_, record.grows_update about⟩
        rw [serve, write_eq_modify about, change_eq_ok_iff_modify.mp made]
        refine (record?_of_change made id).trans ?_
        rw [if_pos rfl, found]
        rfl
  · refine ⟨record, record?_serve_of_unconcerned found about, ?_⟩
    rw [StoreCall.addedRefs_eq_nil about, StoreCall.addedRows_eq_nil about]
    exact record.grows_nil

/-- The job is stored with this record, and behind the calls it still runs. -/
def RunsThrough (store : JobStore) (id : Int) (record : JobRecord) (calls : List StoreCall) :
    Prop :=
  store.record? id = some record ∧
    ∃ last, (store.serveAll calls).record? id = some last ∧ last.state = .running

/-- What calls add to a job that still runs behind them is what they would add. -/
theorem grows_serveAll {calls : List StoreCall} (found : store.record? id = some record)
    (foundBehind : (store.serveAll calls).record? id = some last)
    (running : last.state = .running) :
    record.Grows (calls.flatMap (·.addedRefs id)) (calls.flatMap (·.addedRows id)) last := by
  induction calls generalizing store record with
  | nil =>
      obtain rfl := Option.some.inj (found.symm.trans foundBehind)
      exact record.grows_nil
  | cons call calls inductionHypothesis =>
      -- A job that had ended would not be running behind the calls.
      have runs : record.state = .running := by
        by_contra ended
        have stays := record?_serveAll_of_isTerminal found (JobState.isTerminal_iff.mpr ended)
          (call :: calls)
        obtain rfl := Option.some.inj (stays.symm.trans foundBehind)
        exact ended running
      obtain ⟨between, foundBetween, grows⟩ := exists_grows_serve found runs call
      exact grows.trans (inductionHypothesis foundBetween foundBehind)

end JobStore

/-! ## Rows by number -/

/-- Members that a sort does not tell apart keep their order. -/
theorem filter_mergeSort {α : Type} {le : α → α → Bool} {picked : α → Bool}
    (trans : ∀ a b c, le a b = true → le b c = true → le a c = true)
    (total : ∀ a b, (le a b || le b a) = true)
    (tied : ∀ a b, picked a = true → picked b = true → le a b = true) (items : List α) :
    (items.mergeSort le).filter picked = items.filter picked := by
  have inOrder : (items.filter picked).Pairwise fun a b => le a b = true := by
    refine List.pairwise_of_forall_mem_list fun a inA b inB => ?_
    exact tied a b (List.mem_filter.mp inA).2 (List.mem_filter.mp inB).2
  have kept : (items.filter picked).Sublist ((items.mergeSort le).filter picked) := by
    have sublist := (List.sublist_mergeSort trans total inOrder List.filter_sublist).filter picked
    simpa only [List.filter_filter, Bool.and_self] using sublist
  exact (kept.eq_of_length ((List.mergeSort_perm items le).filter picked).length_eq.symm).symm

namespace JobRecord

variable (record : JobRecord)

theorem perm_orderedRows : record.orderedRows.Perm record.rows :=
  List.mergeSort_perm record.rows _

theorem pairwise_orderedRows :
    record.orderedRows.Pairwise fun first second => first.number ≤ second.number :=
  pairwise_mergeSort_number TableRow.number record.rows

theorem filter_orderedRows (number : Int) :
    record.orderedRows.filter (·.number = number) = record.rows.filter (·.number = number) := by
  refine filter_mergeSort (number_le_trans TableRow.number) (number_le_total TableRow.number) ?_
    record.rows
  simp only [decide_eq_true_eq]
  rintro first second rfl same
  exact Int.le_of_eq same.symm

end JobRecord

/-! ## Windows -/

/-- Windows of these lengths one behind the other: where each begins and how long it is. -/
def windowsFrom (start : Nat) : List Nat → List (Nat × Nat)
  | [] => []
  | length :: lengths => (start, length) :: windowsFrom (start + length) lengths

/-- What is read is a window of a whole, which can be read in parts: windows that go on to its end
show it, and behind its end there is nothing. -/
structure ShowsInParts {α : Type} (read : Nat → Option Nat → Except StoreError (List α))
    (whole : List α) : Prop where
  atOnce : read 0 none = .ok whole
  bounded : ∀ count, whole.length ≤ count → read 0 (some count) = .ok whole
  inParts : ∀ lengths : List Nat, lengths.sum = whole.length → ∃ parts,
    (windowsFrom 0 lengths).mapM (fun (start, length) => read start (some length)) = .ok parts ∧
      parts.flatten = whole
  pastEnd : ∀ skip take?, whole.length ≤ skip → read skip take? = .ok []

theorem flatten_map_window {α : Type} (items : List α) (start : Nat) (lengths : List Nat) :
    ((windowsFrom start lengths).map fun (start, length) =>
      JobStore.window start (some length) items).flatten = (items.drop start).take lengths.sum := by
  induction lengths generalizing start with
  | nil => simp [windowsFrom]
  | cons length lengths inductionHypothesis =>
      rw [windowsFrom, List.map_cons, List.flatten_cons, inductionHypothesis, List.sum_cons,
        List.take_add, List.drop_drop]
      rfl

theorem showsInParts_of_window {α : Type} {read : Nat → Option Nat → Except StoreError (List α)}
    {whole : List α}
    (read_eq : ∀ skip take?, read skip take? = .ok (JobStore.window skip take? whole)) :
    ShowsInParts read whole where
  atOnce := read_eq 0 none
  bounded count enough := by
    rw [read_eq, JobStore.window, List.drop_zero, List.take_of_length_le enough]
  inParts lengths sum_eq := by
    refine ⟨_, ?_, (flatten_map_window whole 0 lengths).trans ?_⟩
    · simp only [read_eq]
      exact List.mapM_pure
    · rw [List.drop_zero, sum_eq, List.take_length]
  pastEnd skip take? past := by
    rw [read_eq]
    cases take? with
    | none => rw [JobStore.window, List.drop_eq_nil_of_le past]
    | some count => rw [JobStore.window, List.drop_eq_nil_of_le past, List.take_nil]

namespace JobStore

variable {store : JobStore} {id : Int} {record : JobRecord}

theorem results_showInParts (found : store.record? id = some record) :
    ShowsInParts (store.results id) record.orderedResults :=
  showsInParts_of_window (results_eq_window found)

theorem rows_showInParts (found : store.record? id = some record) :
    ShowsInParts (store.rows id) record.orderedRows :=
  showsInParts_of_window (rows_eq_window found)

theorem length_orderedResults (record : JobRecord) :
    record.orderedResults.length = record.results.length := by
  unfold JobRecord.orderedResults
  split
  · exact List.length_mergeSort record.results
  · rfl

/-- Let a job run while its store takes any calls.  What is shown newest first is all that the job
had and all that has been added, and it is the same whenever the same has been added, in any order
and any number of calls; with any other order it is shown as it came.  Rows are shown by number, and
those of one number as they came.

In any state the windows of results and of rows show the whole in parts, and a job that is not for
rows has as many events as results. -/
theorem results_depend_on_what_is_added :
    (∀ (store : JobStore) (id : Int) (record : JobRecord) (calls : List StoreCall),
      store.RunsThrough id record calls →
        let behind := store.serveAll calls
        let refs := record.results ++ calls.flatMap (·.addedRefs id)
        let rows := record.rows ++ calls.flatMap (·.addedRows id)
        ∃ shown shownRows,
          behind.results id 0 none = .ok shown ∧ behind.rows id 0 none = .ok shownRows ∧
          (record.job.sortMode = .newestFirst →
            shown.Perm refs ∧
            shown.Pairwise (fun first second => first.Precedes second ∨ first = second) ∧
            ∀ others, store.RunsThrough id record others →
              (others.flatMap (·.addedRefs id)).Perm (calls.flatMap (·.addedRefs id)) →
                ∀ skip take?,
                  (store.serveAll others).results id skip take? = behind.results id skip take?) ∧
          (record.job.sortMode ≠ .newestFirst → shown = refs) ∧
          shownRows.Perm rows ∧
          shownRows.Pairwise (fun first second => first.number ≤ second.number) ∧
          ∀ number, shownRows.filter (·.number = number) = rows.filter (·.number = number)) ∧
    ∀ (store : JobStore) (id : Int) (record : JobRecord), store.record? id = some record →
      ∃ shown shownRows, ShowsInParts (store.results id) shown ∧
        ShowsInParts (store.rows id) shownRows ∧
        (record.job.outputType ≠ .table → store.matchedEvents id = .ok shown.length) := by
  constructor
  · rintro store id record calls ⟨found, last, foundBehind, running⟩ behind refs rows
    have grows := grows_serveAll found foundBehind running
    refine ⟨_, _, results_eq_ok foundBehind, rows_eq_ok foundBehind, ?_, ?_, ?_, ?_, ?_⟩
    · intro newestFirst
      have shown_eq {final : JobRecord} (job : final.job = record.job) :
          final.orderedResults = EventRef.newestFirst final.results := by
        rw [JobRecord.orderedResults, job, newestFirst]
      rw [shown_eq grows.job]
      refine ⟨?_, EventRef.pairwise_precedes_or_eq_newestFirst _, ?_⟩
      · exact grows.results ▸ EventRef.perm_newestFirst last.results
      · rintro others ⟨-, lastOther, foundOther, runningOther⟩ perm skip take?
        have growsOther := grows_serveAll found foundOther runningOther
        have same : lastOther.orderedResults = last.orderedResults := by
          rw [shown_eq grows.job, shown_eq growsOther.job, grows.results, growsOther.results]
          exact EventRef.newestFirst_eq_of_perm (perm.append_left record.results)
        rw [results_eq_window foundOther, results_eq_window foundBehind, same]
    · intro otherMode
      refine Eq.trans ?_ grows.results
      rw [JobRecord.orderedResults, grows.job]
      split
      · next newestFirst => exact absurd newestFirst otherMode
      · rfl
    · exact last.perm_orderedRows.trans (.of_eq grows.rows)
    · exact last.pairwise_orderedRows
    · intro number
      rw [last.filter_orderedRows number, grows.rows]
  · intro store id record found
    refine ⟨_, _, results_showInParts found, rows_showInParts found, fun notTable => ?_⟩
    rw [matchedEvents_eq_ok found, JobRecord.matchedEvents, if_neg notTable,
      length_orderedResults]

/-- Two of three events are of one time, and the third one is added first or last. -/
theorem later_event_may_be_added_first :
    let early : Time.Instant := .ofMillis 0
    let late : Time.Instant := .ofMillis 1
    let job : NewJob := ⟨"", {}, .newestFirst, .events, []⟩
    let store := (empty.insert job).2
    let calls : List StoreCall :=
      [.write (.addResults 1 [⟨1, early⟩, ⟨2, early⟩]), .write (.addResults 1 [⟨3, late⟩])]
    let others : List StoreCall :=
      [.write (.addResults 1 [⟨3, late⟩, ⟨2, early⟩]), .ask (.matchedEvents 1),
        .write (.addResults 1 [⟨1, early⟩])]
    (store.serveAll others).results 1 1 none = (store.serveAll calls).results 1 1 none ∧
      ∃ shown parts, (store.serveAll calls).results 1 0 none = .ok shown ∧
        (windowsFrom 0 [1, 0, 2]).mapM
          (fun (start, length) => (store.serveAll calls).results 1 start (some length)) =
            .ok parts ∧
        parts.flatten = shown := by
  intro early late job store calls others
  have runs : store.RunsThrough 1 { job } calls := ⟨rfl, _, rfl, rfl⟩
  have runsToo : store.RunsThrough 1 { job } others := ⟨rfl, _, rfl, rfl⟩
  have perm : (others.flatMap (·.addedRefs 1)).Perm (calls.flatMap (·.addedRefs 1)) := by decide
  obtain ⟨shown, _, shown_eq, -, inOrder, -⟩ :=
    results_depend_on_what_is_added.1 store 1 { job } calls runs
  obtain ⟨shownPerm, -, same⟩ := inOrder rfl
  obtain ⟨_, _, parts, -⟩ := results_depend_on_what_is_added.2 (store.serveAll calls) 1 _ rfl
  obtain rfl := Except.ok.inj (parts.atOnce.symm.trans shown_eq)
  obtain ⟨pages, pages_eq, flatten_eq⟩ := parts.inParts [1, 0, 2] shownPerm.length_eq.symm
  exact ⟨same others runsToo perm 1 none, _, pages, shown_eq, pages_eq, flatten_eq⟩

end JobStore

end LogQuery
