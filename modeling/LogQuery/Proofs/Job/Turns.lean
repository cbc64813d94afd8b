import LogQuery.Proofs.Job.Live
import LogQuery.Proofs.Job.Provenance

/-!
# Turns of a job

A job runs, it has been asked to stop and has not noticed, or it has ended.  What a move makes of it
depends on whether the move is its turn and on whether the move asks it to stop; all other moves
leave it alone.
-/

namespace LogQuery

open LogQuery.Config LogQuery.Pipeline

namespace Move

/-- No request begins or ceases to fail, and nobody else writes to the store. -/
def IsQuiet : Move → Prop
  | .occurrence (.operation _) => True
  | .occurrence _ => False
  | .turn _ => True

/-- Whether a move asks a job to stop. -/
def stops (id : Int) : Move → Bool
  | .occurrence (.operation (.abort aborted)) => decide (aborted = id)
  | .occurrence (.operation .shutdown) => true
  | _ => false

/-- Whether a move is the turn of a job. -/
def isTurn (id : Int) : Move → Bool
  | .turn turned => decide (turned = id)
  | _ => false

variable {id : Int} {move : Move}

theorem eq_of_isTurn (isTurn : move.isTurn id = true) : move = .turn id := by
  cases move with
  | turn turned => rw [of_decide_eq_true isTurn]
  | occurrence occurrence => cases isTurn

theorem eq_of_stops (stops : move.stops id = true) :
    move = .occurrence (.operation (.abort id)) ∨ move = .occurrence (.operation .shutdown) := by
  cases move with
  | turn turned => cases stops
  | occurrence occurrence =>
      cases occurrence with
      | outage outage => cases stops
      | write write => cases stops
      | operation operation =>
          cases operation with
          | abort aborted => rw [of_decide_eq_true stops]; exact .inl rfl
          | shutdown => exact .inr rfl
          | start query range => cases stops
          | closeStreams => cases stops
          | addEvent event => cases stops
          | setConfig config => cases stops
          | keepOpen keepsOpen => cases stops

end Move

namespace LiveJob

/-- What is left of a job that has stored some of its batches.  In the meantime it may have been
told how it ends. -/
def behind (launched : LiveJob) (count : Nat) (ending? : Option JobState) : LiveJob where
  id := launched.id
  outputType := launched.outputType
  pending := launched.pending.drop count
  nextRow := launched.nextRow +
    ((launched.pending.take count).flatMap (·.storedRows launched.outputType)).length
  ending? := ending?

end LiveJob

/-! ## What others do -/

namespace JobEngine

theorem record?_finish_of_ne (engine : JobEngine) {id finished : Int} (isOther : id ≠ finished)
    (state : JobState) :
    (engine.finish finished state).jobs.store.record? id = engine.jobs.store.record? id := by
  rw [record?_finish, if_neg fun holds => isOther holds.1]

theorem record?_advance_of_ne (engine : JobEngine) (job : LiveJob) (cancelled : Bool) {id : Int}
    (isOther : id ≠ job.id) :
    (engine.advance job cancelled).1.jobs.store.record? id = engine.jobs.store.record? id := by
  obtain ⟨jobId, outputType, pending, nextRow, ending?⟩ := job
  cases cancelled with
  | true => exact record?_finish_of_ne engine isOther .aborted
  | false =>
      cases pending with
      | cons batch pending =>
          obtain ⟨-, fate, updates⟩ :=
            Deposit.exists_fate_store ⟨engine.jobs, nextRow⟩ jobId outputType batch
          exact (updates id).trans (if_neg isOther)
      | nil =>
          cases ending? with
          | some state => exact record?_finish_of_ne engine isOther state
          | none => rfl

/-- A job stores the next of its batches. -/
theorem advance_behind (engine : JobEngine) {launched : LiveJob} {count : Nat}
    (further : count < launched.pending.length) (ending? : Option JobState) :
    engine.advance (launched.behind count ending?) false =
      ({ engine with
         jobs := (Deposit.store launched.outputType launched.id
           ⟨engine.jobs, (launched.behind count ending?).nextRow⟩ launched.pending[count]).jobs },
       some (launched.behind (count + 1) ending?)) := by
  let batch := launched.pending[count]
  have drop_eq : launched.pending.drop count = batch :: launched.pending.drop (count + 1) :=
    List.drop_eq_getElem_cons further
  have take_eq : launched.pending.take (count + 1) = launched.pending.take count ++ [batch] :=
    List.take_succ_eq_append_getElem further
  obtain ⟨nextRow_eq, -⟩ := Deposit.exists_fate_store
    ⟨engine.jobs, (launched.behind count ending?).nextRow⟩ launched.id launched.outputType batch
  have behind_eq : launched.behind (count + 1) ending? =
      { launched.behind count ending? with
        pending := launched.pending.drop (count + 1)
        nextRow := (Deposit.store launched.outputType launched.id
          ⟨engine.jobs, (launched.behind count ending?).nextRow⟩ batch).nextRow } := by
    rw [nextRow_eq]
    unfold LiveJob.behind
    rw [take_eq, List.flatMap_append, List.flatMap_singleton, List.length_append]
    simp only [Int.natCast_add, Int.add_assoc]
  rw [behind_eq, advance, if_neg Bool.false_ne_true]
  unfold LiveJob.behind
  dsimp only
  rw [drop_eq]

/-- A job that has stored all its batches ends or waits. -/
theorem advance_behind_all (engine : JobEngine) {launched : LiveJob} {count : Nat}
    (all : launched.pending.length ≤ count) (ending? : Option JobState) :
    engine.advance (launched.behind count ending?) false =
      match ending? with
      | some state => (engine.finish launched.id state, none)
      | none => (engine, some (launched.behind count none)) := by
  have drop_eq : launched.pending.drop count = [] := List.drop_of_length_le all
  rw [advance, if_neg Bool.false_ne_true]
  unfold LiveJob.behind
  dsimp only
  rw [drop_eq]
  cases ending? with
  | none => rfl
  | some state => rfl

theorem outage_advance (engine : JobEngine) (job : LiveJob) (cancelled : Bool) :
    (engine.advance job cancelled).1.jobs.outage = engine.jobs.outage := by
  rcases advance_cases engine job cancelled with ⟨state, ends⟩ | ⟨jobs, next, goesOn, -, keeps⟩
  · rw [ends]
    exact outage_finish engine job.id state
  · rw [goesOn]
    exact keeps.outage_eq

theorem outage_prepare (engine : JobEngine) (query : String) (range : TimeRange) :
    (engine.prepare query range).2.jobs.outage = engine.jobs.outage := by
  cases prepared : engine.prepare query range with
  | mk answer left =>
      have prepares := engine.prepares query range
      rw [prepared] at prepares
      cases prepares with
      | misread compiled => rfl
      | unrecorded compiled fails => rfl
      | refused compiled job_eq records stopped => exact outage_finish _ _ .aborted
      | launched compiled job_eq records accepts => rfl

theorem outage_requestAbort (engine : JobEngine) (id : Int) :
    (engine.requestAbort id).2.jobs.outage = engine.jobs.outage := by
  by_cases registered : engine.registry.contains id = true
  · rw [requestAbort_of_registered registered]
  · rcases requestAbort_cases registered with ⟨error, requested, -⟩ | ⟨jobs, requested, jobs_eq⟩
    · rw [requested]
    · rw [requested]
      rcases jobs_eq with rfl | rfl
      · rfl
      · exact outage_finish engine id .aborted

end JobEngine

namespace LiveEngine

open JobEngine

variable {system : LiveEngine} {id : Int}

/-- No request to the store of jobs fails. -/
def Works (system : LiveEngine) : Prop :=
  ∀ request, system.engine.jobs.outage request = none

theorem outage_move {move : Move} (quiet : move.IsQuiet) :
    (system.move move).engine.jobs.outage = system.engine.jobs.outage := by
  cases move with
  | turn turned =>
      change (system.turn turned).engine.jobs.outage = _
      unfold turn
      cases system.live turned with
      | none => rfl
      | some job => exact outage_advance system.engine job _
  | occurrence occurrence =>
      cases occurrence with
      | outage outage => cases quiet
      | write write => cases quiet
      | operation operation =>
          cases operation with
          | start query range =>
              have kept := outage_prepare system.engine query range
              change (system.request _).engine.jobs.outage = _
              rw [request]
              rw [← kept]
              cases system.engine.prepare query range with
              | mk answer left =>
                  cases answer with
                  | error error => rfl
                  | ok job => rfl
          | abort aborted => exact outage_requestAbort system.engine aborted
          | shutdown => rfl
          | closeStreams => rfl
          | addEvent event => rfl
          | setConfig config => rfl
          | keepOpen keepsOpen => rfl

theorem Works.move (works : system.Works) {move : Move} (quiet : move.IsQuiet) :
    (system.move move).Works := by
  intro request
  rw [outage_move quiet]
  exact works request

/-- A move leaves a job alone: its record, whether it is live and with what, whether it is
registered and whether it has been cancelled. -/
structure Untouched (before behind : LiveEngine) (id : Int) : Prop where
  record?_eq : behind.engine.jobs.store.record? id = before.engine.jobs.store.record? id
  live_eq : behind.live id = before.live id
  registered_iff : id ∈ behind.engine.running ↔ id ∈ before.engine.running
  cancelled_iff : id ∈ behind.engine.registry.cancelled ↔ id ∈ before.engine.registry.cancelled

theorem Untouched.refl (system : LiveEngine) (id : Int) : system.Untouched system id :=
  ⟨rfl, rfl, .rfl, .rfl⟩

theorem untouched_turn (sound : system.Sound) {turned : Int} (isOther : id ≠ turned) :
    system.Untouched (system.turn turned) id := by
  unfold turn
  cases isLive : system.live turned with
  | none => exact .refl system id
  | some job =>
      dsimp only
      obtain rfl := sound.id_eq isLive
      have record?_eq := record?_advance_of_ne system.engine job
        (system.engine.registry.isCancelled job.id) isOther
      rcases advance_cases system.engine job (system.engine.registry.isCancelled job.id) with
        ⟨state, ends⟩ | ⟨jobs, next, goesOn, -, -⟩
      · rw [ends] at record?_eq ⊢
        refine ⟨record?_eq, Function.update_of_ne isOther _ _, ?_, .rfl⟩
        exact mem_running_finish.trans (and_iff_right isOther)
      · rw [goesOn] at record?_eq ⊢
        exact ⟨record?_eq, Function.update_of_ne isOther _ _, .rfl, .rfl⟩

theorem untouched_start (stored : (system.engine.state? id).isSome = true) (query : String)
    (range : TimeRange) : system.Untouched (system.request (.start query range)) id := by
  have isOther := ne_insert_fst_of_isStored stored
  have record?_eq (job : NewJob) : (system.engine.jobs.store.insert job).2.record? id =
      system.engine.jobs.store.record? id := by
    rw [JobStore.record?_insert, if_neg (isOther job)]
  have prepares := system.engine.prepares query range
  rw [request]
  generalize system.engine.prepare query range = prepared at prepares
  obtain ⟨answer, engine⟩ := prepared
  cases prepares with
  | misread compiled => exact .refl system id
  | unrecorded compiled fails => exact .refl system id
  | @refused _ job compiled job_eq records stopped =>
      refine ⟨?_, rfl, mem_running_finish.trans (and_iff_right (isOther job)), .rfl⟩
      exact (record?_finish_of_ne _ (isOther job) .aborted).trans (record?_eq job)
  | @launched pipeline job compiled job_eq records accepts =>
      refine ⟨record?_eq job, Function.update_of_ne (isOther job) _ _, ?_, .rfl⟩
      exact mem_running_enroll.trans (or_iff_right (isOther job))

theorem untouched_requestAbort (sound : system.Sound) {aborted : Int} (isOther : id ≠ aborted) :
    system.Untouched { system with engine := (system.engine.requestAbort aborted).2 } id := by
  by_cases registered : system.engine.registry.contains aborted = true
  · rw [requestAbort_of_registered registered]
    refine ⟨rfl, rfl, ?_, ?_⟩
    · exact iff_of_eq (congrArg (id ∈ ·) (JobRegistry.running_cancel _ aborted))
    · refine JobRegistry.mem_cancelled_cancel.trans (or_iff_left fun current => isOther ?_)
      exact sound.token_eq current
  · rcases requestAbort_cases registered with ⟨error, requested, -⟩ | ⟨jobs, requested, jobs_eq⟩
    · rw [requested]
      exact .refl system id
    · rw [requested]
      refine ⟨?_, rfl, .rfl, .rfl⟩
      rcases jobs_eq with rfl | rfl
      · rfl
      · exact record?_finish_of_ne system.engine isOther .aborted

/-- A move that is neither a turn of a job nor asks it to stop leaves it alone, unless it closes the
streams of events. -/
theorem untouched_move (sound : system.Sound) (stored : (system.engine.state? id).isSome = true)
    {move : Move} (quiet : move.IsQuiet) (goesOn : move.stops id = false)
    (noTurn : move.isTurn id = false)
    (opens : move ≠ .occurrence (.operation .closeStreams)) :
    system.Untouched (system.move move) id := by
  cases move with
  | turn turned =>
      refine untouched_turn sound fun same => ?_
      exact of_decide_eq_false noTurn same.symm
  | occurrence occurrence =>
      cases occurrence with
      | outage outage => cases quiet
      | write write => cases quiet
      | operation operation =>
          cases operation with
          | start query range => exact untouched_start stored query range
          | abort aborted =>
              refine untouched_requestAbort sound fun same => ?_
              exact of_decide_eq_false goesOn same.symm
          | shutdown => cases goesOn
          | closeStreams => exact absurd rfl opens
          | addEvent event => exact ⟨rfl, rfl, .rfl, .rfl⟩
          | setConfig config => exact ⟨rfl, rfl, .rfl, .rfl⟩
          | keepOpen keepsOpen => exact ⟨rfl, rfl, .rfl, .rfl⟩

/-! ## How far a job has come -/

/-- The record of a job is in a state and shows what the job has stored of some batches: all. -/
def Shows (system : LiveEngine) (id : Int) (job : NewJob) (batches : List Batch)
    (state : JobState) : Prop :=
  ∃ record, system.engine.jobs.store.record? id = some record ∧ record.job = job ∧
    record.state = state ∧
    record.Gathers (batches.flatMap (·.storedRefs job.outputType))
      (batches.flatMap (·.storedRows job.outputType))
      (batches.flatMap (·.countedFields job.outputType))

theorem Shows.state?_eq {job : NewJob} {batches : List Batch} {state : JobState}
    (shows : system.Shows id job batches state) : system.engine.state? id = some state := by
  obtain ⟨record, found, -, state_eq, -⟩ := shows
  exact JobStore.state?_eq_some_iff.mpr ⟨record, found, state_eq⟩

theorem Shows.isSome {job : NewJob} {batches : List Batch} {state : JobState}
    (shows : system.Shows id job batches state) : (system.engine.state? id).isSome = true :=
  Option.isSome_of_eq_some shows.state?_eq

theorem Shows.of_record?_eq {behind : LiveEngine} {job : NewJob} {batches : List Batch}
    {state : JobState} (shows : system.Shows id job batches state)
    (same : behind.engine.jobs.store.record? id = system.engine.jobs.store.record? id) :
    behind.Shows id job batches state := by
  obtain ⟨record, found, holds⟩ := shows
  exact ⟨record, same.trans found, holds⟩

variable {job : NewJob} {launched : LiveJob} {count : Nat} {state : JobState}
  {batches : List Batch}

/-- What a job begins with agrees with its record, and it ends by itself unless it waits. -/
structure Suits (launched : LiveJob) (job : NewJob) : Prop where
  type_eq : launched.outputType = job.outputType
  nextRow_eq : launched.nextRow = 0
  ends {state : JobState} (ending : launched.ending? = some state) :
    state = .finished ∨ state = .partialFailure

/-- A job runs that has stored some batches, one with each turn. -/
structure Runs (system : LiveEngine) (job : NewJob) (launched : LiveJob) (count : Nat) : Prop where
  shows : system.Shows launched.id job (launched.pending.take count) .running
  count_le : count ≤ launched.pending.length
  registered : launched.id ∈ system.engine.running
  uncancelled : launched.id ∉ system.engine.registry.cancelled
  isLive : ∃ ending?, system.live launched.id = some (launched.behind count ending?) ∧
    (ending? = launched.ending? ∨ launched.ending? = none ∧ ending? = some .finished)

/-- A job has been asked to stop and has not noticed.  Its record may have been corrected. -/
structure Stops (system : LiveEngine) (job : NewJob) (launched : LiveJob) (count : Nat) : Prop where
  shows : ∃ state, system.Shows launched.id job (launched.pending.take count) state ∧
    (state = .running ∨ state = .aborted)
  isLive : (system.live launched.id).isSome = true
  isCancelled : launched.id ∈ system.engine.registry.cancelled

/-- A job has ended. -/
structure HasEnded (system : LiveEngine) (job : NewJob) (launched : LiveJob) (count : Nat)
    (state : JobState) : Prop where
  shows : system.Shows launched.id job (launched.pending.take count) state
  ended : state ≠ .running
  gone : system.live launched.id = none
  unregistered : launched.id ∉ system.engine.running

/-! ## One move -/

theorem Shows.finish {batches : List Batch} (shows : system.Shows id job batches .running)
    (works : system.Works) (live : Int → Option LiveJob) (state : JobState) :
    Shows { engine := system.engine.finish id state, live } id job batches state := by
  have isRunning := shows.state?_eq
  obtain ⟨record, found, ofJob, -, gathers⟩ := shows
  refine ⟨record.setState state, ?_, ofJob, rfl, gathers.results_eq, gathers.rows_eq,
    gathers.counts⟩
  refine (record?_finish system.engine id state id).trans ?_
  rw [if_pos ⟨rfl, isRunning, works .setState⟩, found]
  rfl

/-- A turn in which a job ends. -/
theorem hasEnded_of_finish {current : LiveJob} (isLive : system.live launched.id = some current)
    (ended : state ≠ .running)
    (ends : system.engine.advance current (system.engine.registry.isCancelled launched.id) =
      (system.engine.finish launched.id state, none))
    (shows : Shows { engine := system.engine.finish launched.id state, live := system.live }
      launched.id job (launched.pending.take count) state) :
    (system.turn launched.id).HasEnded job launched count state := by
  have turn_eq : system.turn launched.id =
      { engine := system.engine.finish launched.id state
        live := Function.update system.live launched.id none } := by
    unfold LiveEngine.turn
    rw [isLive]
    dsimp only
    rw [ends]
  rw [turn_eq]
  refine ⟨shows, ended, Function.update_self _ _ _, fun registered => ?_⟩
  exact (mem_running_finish.mp registered).1 rfl

/-- A turn in which a job goes on. -/
theorem turn_of_advance {current next : LiveJob} {jobs : JobConnection}
    (isLive : system.live id = some current)
    (goesOn : system.engine.advance current (system.engine.registry.isCancelled id) =
      ({ system.engine with jobs }, some next)) :
    system.turn id =
      { engine := { system.engine with jobs }
        live := Function.update system.live id (some next) } := by
  unfold LiveEngine.turn
  rw [isLive]
  dsimp only
  rw [goesOn]

theorem Runs.isCancelled_eq (runs : system.Runs job launched count) :
    system.engine.registry.isCancelled launched.id = false := by
  rw [JobRegistry.isCancelled, ← Bool.not_eq_true, List.contains_iff_mem]
  exact runs.uncancelled

/-- A running job that has not stored all stores its next batch. -/
theorem Runs.store (suits : Suits launched job) (works : system.Works)
    (runs : system.Runs job launched count) (further : count < launched.pending.length) :
    (system.turn launched.id).Runs job launched (count + 1) := by
  obtain ⟨ending?, isLive, ending_eq⟩ := runs.isLive
  obtain ⟨record, found, ofJob, running, gathers⟩ := runs.shows
  let stored := launched.pending.take count
  have take_eq : launched.pending.take (count + 1) = stored ++ [launched.pending[count]] :=
    List.take_succ_eq_append_getElem further
  have nextRow_eq : (launched.behind count ending?).nextRow =
      (stored.flatMap (·.storedRows job.outputType)).length := by
    rw [LiveJob.behind, suits.nextRow_eq, suits.type_eq, Int.zero_add]
  have before : Deposit.Holds ⟨system.engine.jobs, (launched.behind count ending?).nextRow⟩
      launched.id job (stored.flatMap (·.storedRefs job.outputType))
      (stored.flatMap (·.storedRows job.outputType))
      (stored.flatMap (·.countedFields job.outputType)) :=
    ⟨works, nextRow_eq, record, found, ofJob, running, gathers⟩
  obtain ⟨changed, foundBehind, ofJobStill, runningStill, gathersMore⟩ :=
    (before.store launched.outputType launched.pending[count]).gathered
  have advances := advance_behind system.engine further ending?
  rw [← runs.isCancelled_eq] at advances
  rw [turn_of_advance isLive advances]
  refine ⟨⟨changed, foundBehind, ofJobStill, runningStill, ?_⟩, further, runs.registered,
    runs.uncancelled, ending?, Function.update_self _ _ _, ending_eq⟩
  rw [take_eq]
  simp only [List.flatMap_append, List.flatMap_singleton]
  rwa [suits.type_eq] at gathersMore

/-- What becomes of a running job with its next turn: it stores its next batch, or it has stored all
and ends or waits. -/
theorem Runs.turn (suits : Suits launched job) (works : system.Works)
    (runs : system.Runs job launched count) :
    (count < launched.pending.length ∧ (system.turn launched.id).Runs job launched (count + 1)) ∨
      count = launched.pending.length ∧
        ((system.turn launched.id).HasEnded job launched count
            (launched.ending?.getD .finished) ∨
          launched.ending? = none ∧ (system.turn launched.id).Runs job launched count) := by
  rcases Nat.lt_or_eq_of_le runs.count_le with further | all
  · exact .inl ⟨further, runs.store suits works further⟩
  · refine .inr ⟨all, ?_⟩
    obtain ⟨ending?, isLive, ending_eq⟩ := runs.isLive
    have advances := advance_behind_all system.engine (Nat.le_of_eq all.symm) ending?
    rw [← runs.isCancelled_eq] at advances
    cases ending? with
    | none =>
        refine .inr ⟨?_, ?_⟩
        · rcases ending_eq with same | ⟨-, closed⟩
          · exact same.symm
          · cases closed
        · rw [turn_of_advance isLive advances]
          exact ⟨runs.shows, runs.count_le, runs.registered, runs.uncancelled, none,
            Function.update_self _ _ _, ending_eq⟩
    | some state =>
        have state_eq : launched.ending?.getD .finished = state := by
          rcases ending_eq with same | ⟨waits, closed⟩
          · rw [← same]
            rfl
          · cases closed
            rw [waits]
            rfl
        have ended : state ≠ .running := by
          rcases ending_eq with same | ⟨-, closed⟩
          · rcases suits.ends same.symm with rfl | rfl
            · decide
            · decide
          · cases closed
            decide
        rw [state_eq]
        exact .inl (hasEnded_of_finish isLive ended advances (runs.shows.finish works _ state))

/-- A running job that is asked to stop is cancelled. -/
theorem Runs.stop (sound : system.Sound) (runs : system.Runs job launched count) {move : Move}
    (stops : move.stops launched.id = true) :
    (system.move move).Stops job launched count := by
  obtain ⟨ending?, isLive, -⟩ := runs.isLive
  have current := sound.tokens_eq runs.registered
  have isLiveStill : (system.live launched.id).isSome = true := Option.isSome_of_eq_some isLive
  rcases Move.eq_of_stops stops with rfl | rfl
  · have registered : system.engine.registry.contains launched.id = true :=
      JobRegistry.contains_eq_true_iff.mpr runs.registered
    have moved : system.move (.occurrence (.operation (.abort launched.id))) =
        { system with
          engine := { system.engine with
                      registry := system.engine.registry.cancel launched.id } } :=
      congrArg (fun requested => { system with engine := requested.2 })
        (requestAbort_of_registered registered)
    rw [moved]
    refine ⟨⟨.running, runs.shows, .inl rfl⟩, isLiveStill, ?_⟩
    exact JobRegistry.mem_cancelled_cancel.mpr (.inr current)
  · refine ⟨⟨.running, runs.shows, .inl rfl⟩, isLiveStill, ?_⟩
    exact JobRegistry.mem_cancelled_shutdown.mpr (.inr ⟨launched.id, current⟩)

/-- Nothing else matters to a running job. -/
theorem Runs.pass (sound : system.Sound) (runs : system.Runs job launched count) {move : Move}
    (quiet : move.IsQuiet) (goesOn : move.stops launched.id = false)
    (noTurn : move.isTurn launched.id = false) : (system.move move).Runs job launched count := by
  obtain ⟨ending?, isLive, ending_eq⟩ := runs.isLive
  by_cases closes : move = .occurrence (.operation .closeStreams)
  · subst closes
    refine ⟨runs.shows, runs.count_le, runs.registered, runs.uncancelled,
      some (ending?.getD .finished), ?_, ?_⟩
    · have closed : (system.live launched.id).map LiveJob.close =
          some (launched.behind count (some (ending?.getD .finished))) := by
        rw [isLive]
        rfl
      exact closed
    · rcases ending_eq with same | ⟨waits, closed⟩
      · cases ending? with
        | none => exact .inr ⟨same.symm, rfl⟩
        | some state => exact .inl same
      · rw [closed]
        exact .inr ⟨waits, rfl⟩
  · have untouched := untouched_move sound runs.shows.isSome quiet goesOn noTurn closes
    exact ⟨runs.shows.of_record?_eq untouched.record?_eq, runs.count_le,
      untouched.registered_iff.mpr runs.registered, mt untouched.cancelled_iff.mp runs.uncancelled,
      ending?, untouched.live_eq.trans isLive, ending_eq⟩

/-- An abort leaves what a job has stored.  It corrects the record at most. -/
theorem Shows.requestAbort (shows : system.Shows id job batches state) (works : system.Works) :
    ∃ later,
      Shows { system with engine := (system.engine.requestAbort id).2 } id job batches later ∧
      (later = state ∨ state = .running ∧ later = .aborted) := by
  by_cases registered : system.engine.registry.contains id = true
  · rw [requestAbort_of_registered registered]
    exact ⟨state, shows, .inl rfl⟩
  · rcases requestAbort_cases registered with ⟨error, requested, -⟩ | ⟨jobs, requested, jobs_eq⟩
    · rw [requested]
      exact ⟨state, shows, .inl rfl⟩
    · rw [requested]
      rcases jobs_eq with rfl | rfl
      · exact ⟨state, shows, .inl rfl⟩
      · by_cases running : state = .running
        · subst running
          exact ⟨.aborted, shows.finish works system.live .aborted, .inr ⟨rfl, rfl⟩⟩
        · have notRunning : system.engine.state? id ≠ some .running := by
            rw [shows.state?_eq]
            exact fun isRunning => running (Option.some.inj isRunning)
          rw [jobs_finish_of_not_running notRunning]
          exact ⟨state, shows, .inl rfl⟩

theorem mem_cancelled_requestAbort (isCancelled : id ∈ system.engine.registry.cancelled)
    (aborted : Int) : id ∈ (system.engine.requestAbort aborted).2.registry.cancelled := by
  by_cases registered : system.engine.registry.contains aborted = true
  · rw [requestAbort_of_registered registered]
    exact JobRegistry.mem_cancelled_cancel.mpr (.inl isCancelled)
  · rcases requestAbort_cases registered with ⟨error, requested, -⟩ | ⟨jobs, requested, -⟩
    · rw [requested]
      exact isCancelled
    · rw [requested]
      exact isCancelled

/-- With its next turn a job notices that it has been cancelled. -/
theorem Stops.turn (sound : system.Sound) (works : system.Works)
    (stops : system.Stops job launched count) :
    (system.turn launched.id).HasEnded job launched count .aborted := by
  obtain ⟨current, isLive⟩ := Option.isSome_iff_exists.mp stops.isLive
  obtain ⟨state, shows, heeds⟩ := stops.shows
  have isCancelled : system.engine.registry.isCancelled launched.id = true := by
    rw [JobRegistry.isCancelled, List.contains_iff_mem]
    exact stops.isCancelled
  refine hasEnded_of_finish isLive (by decide) ?_ ?_
  · rw [isCancelled, advance, if_pos rfl, sound.id_eq isLive]
  · rcases heeds with rfl | rfl
    · exact shows.finish works system.live .aborted
    · have notRunning : system.engine.state? launched.id ≠ some .running := by
        rw [shows.state?_eq]
        decide
      refine shows.of_record?_eq ?_
      dsimp only
      rw [jobs_finish_of_not_running notRunning]

/-- Until then nothing matters to it. -/
theorem Stops.pass (sound : system.Sound) (works : system.Works)
    (stops : system.Stops job launched count) {move : Move} (quiet : move.IsQuiet)
    (noTurn : move.isTurn launched.id = false) : (system.move move).Stops job launched count := by
  obtain ⟨state, shows, heeds⟩ := stops.shows
  by_cases asks : move.stops launched.id = true
  · rcases Move.eq_of_stops asks with rfl | rfl
    · obtain ⟨later, showsLater, later_eq⟩ := shows.requestAbort works
      refine ⟨⟨later, showsLater, ?_⟩, stops.isLive,
        mem_cancelled_requestAbort stops.isCancelled launched.id⟩
      rcases later_eq with rfl | ⟨-, rfl⟩
      · exact heeds
      · exact .inr rfl
    · exact ⟨⟨state, shows, heeds⟩, stops.isLive,
        JobRegistry.mem_cancelled_shutdown.mpr (.inl stops.isCancelled)⟩
  · by_cases closes : move = .occurrence (.operation .closeStreams)
    · subst closes
      exact ⟨⟨state, shows, heeds⟩, Option.isSome_map.trans stops.isLive, stops.isCancelled⟩
    · have untouched := untouched_move sound shows.isSome quiet (Bool.eq_false_iff.mpr asks) noTurn
        closes
      refine ⟨⟨state, shows.of_record?_eq untouched.record?_eq, heeds⟩, ?_,
        untouched.cancelled_iff.mpr stops.isCancelled⟩
      rw [untouched.live_eq]
      exact stops.isLive

/-- Nothing matters to a job that has ended. -/
theorem HasEnded.move (sound : system.Sound) (works : system.Works)
    (hasEnded : system.HasEnded job launched count state) {move : Move} (quiet : move.IsQuiet) :
    (system.move move).HasEnded job launched count state := by
  by_cases isTurn : move.isTurn launched.id = true
  · obtain rfl := Move.eq_of_isTurn isTurn
    have turn_eq : system.turn launched.id = system := by
      unfold LiveEngine.turn
      rw [hasEnded.gone]
    change (system.turn launched.id).HasEnded job launched count state
    rwa [turn_eq]
  · by_cases asks : move.stops launched.id = true
    · rcases Move.eq_of_stops asks with rfl | rfl
      · obtain ⟨later, shows, later_eq⟩ := hasEnded.shows.requestAbort works
        have same : later = state := later_eq.resolve_right fun holds => hasEnded.ended holds.1
        have notContained : ¬system.engine.registry.contains launched.id = true := fun contained =>
          hasEnded.unregistered (JobRegistry.contains_eq_true_iff.mp contained)
        refine ⟨same ▸ shows, hasEnded.ended, hasEnded.gone, ?_⟩
        change launched.id ∉ (system.engine.requestAbort launched.id).2.registry.running
        rw [registry_requestAbort notContained]
        exact hasEnded.unregistered
      · exact ⟨hasEnded.shows, hasEnded.ended, hasEnded.gone,
          JobRegistry.notMem_running_shutdown _ _⟩
    · by_cases closes : move = .occurrence (.operation .closeStreams)
      · subst closes
        exact ⟨hasEnded.shows, hasEnded.ended, Option.map_eq_none_iff.mpr hasEnded.gone,
          hasEnded.unregistered⟩
      · have untouched := untouched_move sound hasEnded.shows.isSome quiet
          (Bool.eq_false_iff.mpr asks) (Bool.eq_false_iff.mpr isTurn) closes
        exact ⟨hasEnded.shows.of_record?_eq untouched.record?_eq, hasEnded.ended,
          untouched.live_eq.trans hasEnded.gone, mt untouched.registered_iff.mp
          hasEnded.unregistered⟩

end LiveEngine

end LogQuery
