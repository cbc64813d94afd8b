import LogQuery.Proofs.Job.Turns

/-!
# Jobs that are interrupted

An abort or a shutdown may come between any two batches of a job.  The job notices when it has its
next turn; until then nobody touches what it has stored, and from then on nobody adds to it.  So a
job stores exactly the batches for which it has had turns before it was asked to stop.
-/

namespace LogQuery

open LogQuery.Config LogQuery.Pipeline

namespace LiveEngine

open JobEngine

variable {system : LiveEngine} {job : NewJob} {launched : LiveJob} {count : Nat} {state : JobState}

theorem Works.moveAll (works : system.Works) {moves : List Move}
    (quiet : ∀ move ∈ moves, move.IsQuiet) : (system.moveAll moves).Works := by
  induction moves generalizing system with
  | nil => exact works
  | cons move moves inductionHypothesis =>
      obtain ⟨quietNow, quietBehind⟩ := List.forall_mem_cons.mp quiet
      exact inductionHypothesis (works.move quietNow) quietBehind

theorem HasEnded.moveAll (sound : system.Sound) (works : system.Works)
    (hasEnded : system.HasEnded job launched count state) {moves : List Move}
    (quiet : ∀ move ∈ moves, move.IsQuiet) :
    (system.moveAll moves).HasEnded job launched count state := by
  induction moves generalizing system with
  | nil => exact hasEnded
  | cons move moves inductionHypothesis =>
      obtain ⟨quietNow, quietBehind⟩ := List.forall_mem_cons.mp quiet
      exact inductionHypothesis (sound.move move) (works.move quietNow)
        (hasEnded.move sound works quietNow) quietBehind

/-- A job that has been asked to stop ends as aborted with its next turn. -/
theorem Stops.moveAll (sound : system.Sound) (works : system.Works)
    (stops : system.Stops job launched count) {moves : List Move}
    (quiet : ∀ move ∈ moves, move.IsQuiet) :
    if moves.any (·.isTurn launched.id) then
      (system.moveAll moves).HasEnded job launched count .aborted
    else (system.moveAll moves).Stops job launched count := by
  induction moves generalizing system with
  | nil => exact stops
  | cons move moves inductionHypothesis =>
      obtain ⟨quietNow, quietBehind⟩ := List.forall_mem_cons.mp quiet
      have worksBehind := works.move quietNow
      rw [List.any_cons]
      cases isTurn : move.isTurn launched.id with
      | true =>
          obtain rfl := Move.eq_of_isTurn isTurn
          exact (stops.turn sound works).moveAll (sound.move _) worksBehind quietBehind
      | false =>
          exact inductionHypothesis (sound.move move) worksBehind
            (stops.pass sound works quietNow isTurn) quietBehind

/-- As long as it is not asked to stop, a job stores a batch with each turn.  Behind the last batch
it ends or waits. -/
theorem Runs.moveAll (suits : Suits launched job) (sound : system.Sound) (works : system.Works)
    (runs : system.Runs job launched count) {moves : List Move}
    (quiet : ∀ move ∈ moves, move.IsQuiet)
    (goesOn : ∀ move ∈ moves, move.stops launched.id = false) :
    let turns := count + moves.countP (·.isTurn launched.id)
    (∃ stored, (system.moveAll moves).Runs job launched stored ∧
        launched.pending.take stored = launched.pending.take turns ∧
        (turns ≤ launched.pending.length ∨ launched.ending? = none)) ∨
      launched.pending.length < turns ∧
        (system.moveAll moves).HasEnded job launched launched.pending.length
          (launched.ending?.getD .finished) := by
  induction moves generalizing system count with
  | nil => exact .inl ⟨count, runs, rfl, .inl runs.count_le⟩
  | cons move moves inductionHypothesis =>
      obtain ⟨quietNow, quietBehind⟩ := List.forall_mem_cons.mp quiet
      obtain ⟨goesOnNow, goesOnBehind⟩ := List.forall_mem_cons.mp goesOn
      have worksBehind := works.move quietNow
      have soundBehind := sound.move move
      rw [List.countP_cons]
      cases isTurn : move.isTurn launched.id with
      | false =>
          rw [if_neg Bool.false_ne_true, Nat.add_zero]
          exact inductionHypothesis soundBehind worksBehind
            (runs.pass sound quietNow goesOnNow isTurn) quietBehind goesOnBehind
      | true =>
          obtain rfl := Move.eq_of_isTurn isTurn
          rw [if_pos rfl, ← Nat.add_assoc]
          rcases runs.turn suits works with ⟨-, stores⟩ | ⟨all, ends | ⟨waits, runsOn⟩⟩
          · rw [Nat.add_right_comm]
            exact inductionHypothesis soundBehind worksBehind stores quietBehind goesOnBehind
          · subst all
            exact .inr ⟨by omega, ends.moveAll soundBehind worksBehind quietBehind⟩
          · subst all
            rcases inductionHypothesis soundBehind worksBehind runsOn quietBehind goesOnBehind with
              ⟨stored, runsBehind, take_eq, -⟩ | ⟨beyond, ended⟩
            · refine .inl ⟨stored, runsBehind, take_eq.trans ?_, .inr waits⟩
              rw [List.take_of_length_le (Nat.le_add_right _ _), List.take_of_length_le (by omega)]
            · exact .inr ⟨by omega, ended⟩

/-- A job that has just been started runs and has stored nothing. -/
theorem exists_runs_start (sound : system.Sound) {query : String} {range : TimeRange}
    {left : JobEngine} (prepared : system.engine.prepare query range = (.ok launched, left)) :
    ∃ pipeline, Pipeline.compile .builtin query range = .ok pipeline ∧
      launched.pending =
        (pipeline.run ⟨system.engine.events, system.engine.configs⟩ false).batches ∧
      Suits launched (newJob pipeline query range) ∧
      (system.request (.start query range)).Runs (newJob pipeline query range) launched 0 := by
  have prepares := system.engine.prepares query range
  rw [request, prepared]
  rw [prepared] at prepares
  cases prepares with
  | @launched pipeline job compiled job_eq records accepts =>
      subst job_eq
      let id := (system.engine.jobs.store.insert (newJob pipeline query range)).1
      refine ⟨pipeline, compiled, rfl, ⟨rfl, rfl, ?_⟩, ?_⟩
      · intro state ending
        dsimp only [launch] at ending
        split at ending
        · cases ending
        · split at ending
          · exact .inl (Option.some.inj ending).symm
          · exact .inr (Option.some.inj ending).symm
      · constructor
        · exact ⟨{ job := newJob pipeline query range },
            record?_enroll (newJob pipeline query range), rfl, rfl, rfl, rfl,
            Histogram.counts_empty⟩
        · exact Nat.zero_le _
        · have registered : id ∈ (system.engine.enroll (newJob pipeline query range)).running :=
            mem_running_enroll.mpr (.inl rfl)
          exact registered
        · exact sound.insert_fst_not_mem_cancelled (newJob pipeline query range)
        · exact ⟨_, Function.update_self _ _ _, .inl rfl⟩

/-- Start a job on an engine that has been through any moves, and let further moves follow that do
not ask the job to stop.  Either it still runs and has stored one batch with each turn; it may have
had more turns than it has batches if it waits for further events.  Or it has stored all its batches
and ended by itself, and stays so whatever follows.  If an abort or a shutdown finds it running,
then after its next turn it has ended as aborted, it is neither live nor registered, and what it has
stored are the batches that it had stored before, and no others. -/
theorem interrupted_job_keeps_what_it_has_stored (events : EventStore) (configs : ConfigSource)
    (jobs : JobConnection) (keepsOpen : Bool) (works : ∀ request, jobs.outage request = none)
    {before : List Move} (quietBefore : ∀ move ∈ before, move.IsQuiet) {query : String}
    {range : TimeRange} {left : JobEngine} :
    let system := moveAll { engine := unused events configs jobs keepsOpen } before
    system.engine.prepare query range = (.ok launched, left) →
    ∃ pipeline, Pipeline.compile .builtin query range = .ok pipeline ∧
      launched.pending =
        (pipeline.run ⟨system.engine.events, system.engine.configs⟩ false).batches ∧
      ∀ moves : List Move, (∀ move ∈ moves, move.IsQuiet) →
        (∀ move ∈ moves, move.stops launched.id = false) →
        let job := newJob pipeline query range
        let turns := moves.countP (·.isTurn launched.id)
        let moved := (system.move (.occurrence (.operation (.start query range)))).moveAll moves
        (moved.Shows launched.id job (launched.pending.take turns) .running ∧
            (turns ≤ launched.pending.length ∨ launched.ending? = none) ∧
            ∀ stop later, stop.stops launched.id = true → (∀ move ∈ later, move.IsQuiet) →
              later.any (·.isTurn launched.id) = true →
              let stopped := moved.moveAll (stop :: later)
              stopped.Shows launched.id job (launched.pending.take turns) .aborted ∧
                stopped.live launched.id = none ∧ launched.id ∉ stopped.engine.running) ∨
          launched.pending.length < turns ∧
            ∀ later, (∀ move ∈ later, move.IsQuiet) →
              (moved.moveAll later).Shows launched.id job launched.pending
                (launched.ending?.getD .finished) := by
  intro system prepared
  have sound : system.Sound := (Sound.unused events configs jobs keepsOpen).moveAll before
  have worksUnused : Works { engine := unused events configs jobs keepsOpen } := works
  have worksBehind : system.Works := worksUnused.moveAll quietBefore
  obtain ⟨pipeline, compiled, pending_eq, suits, runs⟩ := exists_runs_start sound prepared
  refine ⟨pipeline, compiled, pending_eq, ?_⟩
  intro moves quiet goesOn job turns moved
  let start : Move := .occurrence (.operation (.start query range))
  have soundMoved : moved.Sound := (sound.move start).moveAll moves
  have isQuiet : start.IsQuiet := trivial
  have worksStarted : (system.move start).Works := worksBehind.move isQuiet
  have worksMoved : moved.Works := worksStarted.moveAll quiet
  have runsOn := Runs.moveAll suits (sound.move start) worksStarted runs quiet goesOn
  rw [Nat.zero_add] at runsOn
  rcases runsOn with ⟨stored, runsMoved, take_eq, within⟩ | ⟨beyond, ended⟩
  · refine .inl ⟨take_eq ▸ runsMoved.shows, within, ?_⟩
    intro stop later stops quietLater noticed
    have quietStop : stop.IsQuiet := by
      rcases Move.eq_of_stops stops with rfl | rfl
      · trivial
      · trivial
    have stopping := (runsMoved.stop soundMoved stops).moveAll (soundMoved.move stop)
      (worksMoved.move quietStop) quietLater
    rw [if_pos noticed] at stopping
    exact ⟨take_eq ▸ stopping.shows, stopping.gone, stopping.unregistered⟩
  · refine .inr ⟨beyond, ?_⟩
    intro later quietLater
    have shows := (ended.moveAll soundMoved worksMoved quietLater).shows
    rwa [List.take_length] at shows

-- A job has two rows to store, and is aborted behind the first.
example :
    let type : FileType :=
      { name := defaultTypeName, timeLayout := "", parser := .json defaultDelimiter "_time" }
    let engine : JobEngine :=
      { events := { added := [⟨"", .epoch, "a", "s"⟩, ⟨"", .epoch, "b", "s"⟩], pageSize := 1 }
        configs := .constant
          { files := [{ fileName := "s" }], fileTypes := .ofList [(type.name, type)] } }
    let stopped := moveAll { engine }
      [.occurrence (.operation (.start "| table host" {})), .turn 1,
        .occurrence (.operation (.abort 1)), .turn 1, .turn 1]
    stopped.engine.state? 1 = some .aborted ∧
      (stopped.engine.jobs.store.rows 1 0 none).map
          (fun rows => rows.map fun row => (row.number, row.values.toList)) =
        .ok [(0, [("host", "b")])] := by
  intro type engine stopped
  simp only [stopped]
  constructor
  · cbv
  · cbv

end LiveEngine

end LogQuery
