import LogQuery.Proofs.Job.Live

/-!
# Settled runs

An operation that leaves a settled engine is a run of the live engine: it is requested, and then the
jobs that it concerns have all the turns that they want before anything else happens.  So every
history of an engine, whatever requests fail in its course, is one of the ways in which moves may
come.
-/

namespace LogQuery

open LogQuery.Config LogQuery.Pipeline

namespace JobEngine

/-- A job that has had all its turns has ended or waits. -/
theorem pending_of_advanceThrough (engine : JobEngine) (outages : Outages) (job : LiveJob)
    {last : LiveJob}
    (goesOn : (engine.advanceThrough outages job (job.pending.length + 1)).2 = some last) :
    last.pending = [] ∧ last.ending? = none := by
  obtain ⟨id, outputType, pending, nextRow, ending?⟩ := job
  induction pending generalizing engine outages nextRow with
  | nil =>
      cases ending? with
      | some state => cases goesOn
      | none =>
          cases goesOn
          exact ⟨rfl, rfl⟩
  | cons batch pending inductionHypothesis =>
      let deposit := Deposit.store outputType id ⟨(engine.facing (outages 0)).jobs, nextRow⟩ batch
      exact inductionHypothesis { engine.facing (outages 0) with jobs := deposit.jobs }
        (outages.behind 1) deposit.nextRow goesOn

theorem cancelled_advance (engine : JobEngine) (job : LiveJob) (cancelled : Bool) :
    (engine.advance job cancelled).1.registry.cancelled = engine.registry.cancelled := by
  rcases advance_cases engine job cancelled with ⟨state, ends⟩ | ⟨jobs, next, goesOn, -, -⟩
  · rw [ends]
    rfl
  · rw [goesOn]

theorem cancelled_advanceThrough (engine : JobEngine) (outages : Outages) (job : LiveJob)
    (turns : Nat) :
    (engine.advanceThrough outages job turns).1.registry.cancelled =
      engine.registry.cancelled := by
  induction turns generalizing engine outages job with
  | zero => rfl
  | succ turns inductionHypothesis =>
      have first := cancelled_advance (engine.facing (outages 0)) job false
      rw [advanceThrough]
      split
      · next advanced ended =>
          rw [ended] at first
          exact first
      · next advanced next goesOn =>
          rw [goesOn] at first
          exact (inductionHypothesis advanced (outages.behind 1) next).trans first

theorem cancelled_finishAllThrough (engine : JobEngine) (outages : Outages) (state : JobState)
    (ids : List Int) :
    (engine.finishAllThrough outages state ids).registry.cancelled =
      engine.registry.cancelled := by
  induction ids generalizing engine outages with
  | nil => rfl
  | cons id ids inductionHypothesis =>
      exact inductionHypothesis ((engine.facing (outages 0)).finish id state) (outages.behind 1)

end JobEngine

/-- The turn of a job when these requests fail. -/
def Move.turnFacing (outage : StoreRequest → Option String) (id : Int) : List Move :=
  [.occurrence (.outage outage), .turn id]

namespace LiveEngine

open JobEngine

variable {system : LiveEngine}

theorem moveAll_append (moves more : List Move) :
    system.moveAll (moves ++ more) = (system.moveAll moves).moveAll more :=
  List.foldl_append

theorem moveAll_turnFacing {job : LiveJob} {id : Int} (isLive : system.live id = some job)
    (outage : StoreRequest → Option String) :
    system.moveAll (Move.turnFacing outage id) =
      let advanced := (system.engine.facing outage).advance job
        (system.engine.registry.isCancelled id)
      { engine := advanced.1, live := Function.update system.live id advanced.2 } := by
  change turn { system with engine := system.engine.facing outage } id = _
  unfold turn
  dsimp only
  rw [isLive]
  rfl

/-- A job that nobody cancels has some turns in a row. -/
theorem exists_moves_advanceThrough (outages : Outages) (turns : Nat) {job : LiveJob}
    (isLive : system.live job.id = some job)
    (uncancelled : system.engine.registry.isCancelled job.id = false) :
    ∃ moves,
      let advanced := system.engine.advanceThrough outages job turns
      system.moveAll moves =
        { engine := advanced.1, live := Function.update system.live job.id advanced.2 } := by
  induction turns generalizing system outages job with
  | zero =>
      refine ⟨[], ?_⟩
      have same : Function.update system.live job.id (some job) = system.live :=
        Function.update_eq_self_iff.mpr isLive.symm
      dsimp only [advanceThrough]
      rw [same]
      rfl
  | succ turns inductionHypothesis =>
      have first := moveAll_turnFacing isLive (outages 0)
      rw [uncancelled] at first
      rw [advanceThrough]
      rcases advance_cases (system.engine.facing (outages 0)) job false with
        ⟨state, ends⟩ | ⟨jobs, next, goesOn, same, -⟩
      · rw [ends] at first ⊢
        exact ⟨Move.turnFacing (outages 0) job.id, first⟩
      · rw [goesOn] at first ⊢
        rw [← same] at first
        let second : LiveEngine :=
          { engine := { system.engine.facing (outages 0) with jobs }
            live := Function.update system.live next.id (some next) }
        have isLiveStill : second.live next.id = some next := Function.update_self _ _ _
        have uncancelledStill : second.engine.registry.isCancelled next.id = false := by
          rw [same]
          exact uncancelled
        obtain ⟨moves, moved⟩ :=
          inductionHypothesis (outages.behind 1) isLiveStill uncancelledStill
        refine ⟨Move.turnFacing (outages 0) next.id ++ moves, ?_⟩
        rw [moveAll_append, first]
        refine moved.trans ?_
        dsimp only [second]
        rw [Function.update_idem, same]

/-- With its next turn a job ends in a state. -/
def EndsNext (system : LiveEngine) (state : JobState) (id : Int) : Prop :=
  ∃ job, system.live id = some job ∧ ∀ engine : JobEngine,
    engine.advance job (system.engine.registry.isCancelled id) = (engine.finish id state, none)

/-- Jobs that end with their next turns end one after the other. -/
theorem exists_moves_finishAllThrough (outages : Outages) (state : JobState) {ids : List Int}
    (nodup : ids.Nodup) (ending : ∀ id ∈ ids, system.EndsNext state id) :
    ∃ moves, (system.moveAll moves).engine = system.engine.finishAllThrough outages state ids ∧
      ∀ id, (system.moveAll moves).live id = if id ∈ ids then none else system.live id := by
  induction ids generalizing system outages with
  | nil =>
      refine ⟨[], rfl, fun id => ?_⟩
      rw [if_neg List.not_mem_nil]
      rfl
  | cons first ids inductionHypothesis =>
      obtain ⟨isNew, nodupBehind⟩ := List.nodup_cons.mp nodup
      obtain ⟨endsNow, endBehind⟩ := List.forall_mem_cons.mp ending
      obtain ⟨job, isLive, ends⟩ := endsNow
      have moved := moveAll_turnFacing isLive (outages 0)
      rw [ends] at moved
      let second : LiveEngine :=
        { engine := (system.engine.facing (outages 0)).finish first state
          live := Function.update system.live first none }
      have endLater : ∀ id ∈ ids, second.EndsNext state id := by
        intro id member
        obtain ⟨later, isLiveLater, endsLater⟩ := endBehind id member
        have isOther : id ≠ first := by
          rintro rfl
          exact isNew member
        exact ⟨later, (Function.update_of_ne isOther _ _).trans isLiveLater, endsLater⟩
      obtain ⟨moves, engine_eq, live_eq⟩ :=
        inductionHypothesis (outages.behind 1) nodupBehind endLater
      refine ⟨Move.turnFacing (outages 0) first ++ moves, ?_, ?_⟩
      · rw [moveAll_append, moved]
        exact engine_eq
      · intro id
        rw [moveAll_append, moved]
        refine (live_eq id).trans ?_
        dsimp only [second]
        by_cases same : id = first
        · rw [same, Function.update_self, if_neg isNew, if_pos List.mem_cons_self]
        · rw [Function.update_of_ne same]
          simp only [List.mem_cons, same, false_or]

/-- All live jobs wait for further events, and none of them has been asked to stop. -/
structure Settled (system : LiveEngine) : Prop where
  sound : system.Sound
  waits {id : Int} {job : LiveJob} (isLive : system.live id = some job) :
    job.pending = [] ∧ job.ending? = none
  uncancelled {id : Int} (isLive : (system.live id).isSome = true) :
    id ∉ system.engine.registry.cancelled

namespace Settled

theorem isCancelled_eq (settled : system.Settled) {id : Int}
    (isLive : (system.live id).isSome = true) :
    system.engine.registry.isCancelled id = false := by
  rw [JobRegistry.isCancelled, ← Bool.not_eq_true, List.contains_iff_mem]
  exact settled.uncancelled isLive

/-- In a settled engine the live jobs are those that are registered. -/
theorem isLive_iff (settled : system.Settled) {id : Int} :
    (system.live id).isSome = true ↔ id ∈ system.engine.running := by
  constructor
  · intro isLive
    by_contra unregistered
    exact settled.uncancelled isLive (settled.sound.isCancelled isLive unregistered)
  · exact settled.sound.isLive

theorem with_engine (settled : system.Settled) {engine : JobEngine}
    (registry_eq : engine.registry = system.engine.registry)
    (stored : ∀ {id}, (system.engine.state? id).isSome = true →
      (engine.state? id).isSome = true) : Settled { system with engine } where
  sound := settled.sound.with_engine registry_eq stored
  waits := settled.waits
  uncancelled isLive := by
    dsimp only
    rw [registry_eq]
    exact settled.uncancelled isLive

end Settled

/-- Some moves lead to an engine, and to a settled state. -/
def Reaches (system : LiveEngine) (engine : JobEngine) : Prop :=
  ∃ moves, (system.moveAll moves).engine = engine ∧ (system.moveAll moves).Settled

theorem Reaches.of_moveAll {engine : JobEngine} {moves : List Move}
    (reaches : (system.moveAll moves).Reaches engine) : system.Reaches engine := by
  obtain ⟨more, engine_eq, settled⟩ := reaches
  exact ⟨moves ++ more, by rwa [moveAll_append], by rwa [moveAll_append]⟩

/-- A job has all its turns while all others wait. -/
theorem Sound.reaches_settleThrough (sound : system.Sound) (outages : Outages) {job : LiveJob}
    (isLive : system.live job.id = some job)
    (waits : ∀ {id other}, id ≠ job.id → system.live id = some other →
      other.pending = [] ∧ other.ending? = none)
    (uncancelled : ∀ {id}, (system.live id).isSome = true →
      id ∉ system.engine.registry.cancelled) :
    system.Reaches (system.engine.settleThrough outages job) := by
  have isCancelled_eq : system.engine.registry.isCancelled job.id = false := by
    rw [JobRegistry.isCancelled, ← Bool.not_eq_true, List.contains_iff_mem]
    exact uncancelled (Option.isSome_of_eq_some isLive)
  let turns := job.pending.length + 1
  obtain ⟨moves, moved⟩ := exists_moves_advanceThrough outages turns isLive isCancelled_eq
  refine ⟨moves, ?_, sound.moveAll moves, ?_, ?_⟩
  · rw [moved]
    rfl
  · intro id last isLiveLast
    rw [moved] at isLiveLast
    dsimp only at isLiveLast
    by_cases same : id = job.id
    · rw [same, Function.update_self] at isLiveLast
      exact pending_of_advanceThrough system.engine outages job isLiveLast
    · rw [Function.update_of_ne same] at isLiveLast
      exact waits same isLiveLast
  · intro id isLiveLast
    rw [moved] at isLiveLast ⊢
    dsimp only at isLiveLast ⊢
    rw [cancelled_advanceThrough]
    by_cases same : id = job.id
    · exact uncancelled (same ▸ Option.isSome_of_eq_some isLive)
    · rw [Function.update_of_ne same] at isLiveLast
      exact uncancelled isLiveLast

/-- Some jobs end with their next turns while all others wait. -/
theorem Sound.reaches_finishAllThrough (sound : system.Sound) (outages : Outages)
    (state : JobState) {ids : List Int} (nodup : ids.Nodup)
    (ending : ∀ id ∈ ids, system.EndsNext state id)
    (waits : ∀ {id job}, id ∉ ids → system.live id = some job →
      job.pending = [] ∧ job.ending? = none)
    (uncancelled : ∀ {id}, id ∉ ids → (system.live id).isSome = true →
      id ∉ system.engine.registry.cancelled) :
    system.Reaches (system.engine.finishAllThrough outages state ids) := by
  obtain ⟨moves, engine_eq, live_eq⟩ := exists_moves_finishAllThrough outages state nodup ending
  refine ⟨moves, engine_eq, sound.moveAll moves, ?_, ?_⟩
  · intro id job isLive
    rw [live_eq] at isLive
    split at isLive
    · cases isLive
    · next notMember => exact waits notMember isLive
  · intro id isLive
    rw [live_eq] at isLive
    rw [engine_eq, cancelled_finishAllThrough]
    split at isLive
    · cases isLive
    · next notMember => exact uncancelled notMember isLive

namespace Settled

/-- A start at a moment that has come already. -/
theorem reaches_startThrough_of_facing (settled : system.Settled) {outages : Outages}
    (faces : system.engine.facing (outages 0) = system.engine) (query : String)
    (range : TimeRange) :
    (system.request (.start query range)).Reaches
      (system.engine.startThrough outages query range).2 := by
  have soundBehind := settled.sound.start query range
  have prepares := system.engine.prepares query range
  unfold startThrough
  rw [request] at soundBehind ⊢
  rw [faces]
  generalize system.engine.prepare query range = prepared at prepares soundBehind
  obtain ⟨answer, engine⟩ := prepared
  cases prepares with
  | misread compiled => exact ⟨[], rfl, soundBehind, settled.waits, settled.uncancelled⟩
  | unrecorded compiled fails => exact ⟨[], rfl, soundBehind, settled.waits, settled.uncancelled⟩
  | refused compiled job_eq records stopped =>
      exact ⟨[], rfl, soundBehind, settled.waits, settled.uncancelled⟩
  | @launched pipeline job compiled job_eq records accepts =>
      let id := (system.engine.jobs.store.insert job).1
      let next := ((system.engine.enroll job).launch id pipeline).1
      refine soundBehind.reaches_settleThrough (outages.behind 1) (Function.update_self _ _ _) ?_ ?_
      · intro other waiting isOther isLive
        exact settled.waits ((Function.update_of_ne isOther _ _).symm.trans isLive)
      · intro other isLive
        by_cases same : other = id
        · rw [same]
          exact settled.sound.insert_fst_not_mem_cancelled job
        · have updated : Function.update system.live id (some next) other = system.live other :=
            Function.update_of_ne same _ _
          refine settled.uncancelled ?_
          rw [← updated]
          exact isLive

theorem reaches_startThrough (settled : system.Settled) (outages : Outages) (query : String)
    (range : TimeRange) :
    system.Reaches (system.engine.startThrough outages query range).2 := by
  let facing : LiveEngine := { system with engine := system.engine.facing (outages 0) }
  have settledFacing : facing.Settled := settled.with_engine rfl (fun isStored => isStored)
  have reaches : (facing.request (.start query range)).Reaches
      (facing.engine.startThrough outages query range).2 :=
    settledFacing.reaches_startThrough_of_facing rfl query range
  let moves : List Move :=
    [.occurrence (.outage (outages 0)), .occurrence (.operation (.start query range))]
  have moved : system.moveAll moves = facing.request (.start query range) := rfl
  rw [← moved] at reaches
  exact reaches.of_moveAll

/-- Beside an operation that is over at once the others go on waiting. -/
theorem reaches_with_engine (settled : system.Settled) (move : Move) {engine : JobEngine}
    (moved : system.move move = { system with engine })
    (registry_eq : engine.registry = system.engine.registry)
    (stored : ∀ {id}, (system.engine.state? id).isSome = true →
      (engine.state? id).isSome = true) : system.Reaches engine := by
  have settledBehind := settled.with_engine registry_eq stored
  rw [← moved] at settledBehind
  exact ⟨[move], congrArg (·.engine) moved, settledBehind⟩

theorem reaches_abort (settled : system.Settled) (outages : Outages) (id : Int) :
    system.Reaches ((system.engine.facing (outages 0)).abort id).2 := by
  let facing : LiveEngine := { system with engine := system.engine.facing (outages 0) }
  have settledFacing : facing.Settled := settled.with_engine rfl (fun isStored => isStored)
  let moves : List Move := [.occurrence (.outage (outages 0)), .occurrence (.operation (.abort id))]
  have moved : system.moveAll moves =
      { facing with engine := (facing.engine.requestAbort id).2 } := rfl
  have soundMoved : (system.moveAll moves).Sound := settledFacing.sound.requestAbort id
  suffices reaches : (system.moveAll moves).Reaches (facing.engine.abort id).2 from
    reaches.of_moveAll
  rw [moved] at soundMoved ⊢
  rw [abort_eq]
  by_cases registered : facing.engine.registry.contains id = true
  · -- The job is live and notices with its next turn, at the same moment.
    have isRegistered : id ∈ system.engine.running :=
      JobRegistry.contains_eq_true_iff.mp registered
    obtain ⟨job, isLive⟩ := Option.isSome_iff_exists.mp (settled.sound.isLive isRegistered)
    have current := settled.sound.tokens_eq isRegistered
    rw [requestAbort_of_registered registered] at soundMoved ⊢
    rw [if_pos registered]
    refine soundMoved.reaches_finishAllThrough (fun _ => outages 0) .aborted
      (List.nodup_singleton id) ?_ ?_ ?_
    · intro other member
      obtain rfl := List.mem_singleton.mp member
      refine ⟨job, isLive, fun engine => ?_⟩
      have isCancelled : (facing.engine.registry.cancel other).isCancelled other = true := by
        rw [JobRegistry.isCancelled, List.contains_iff_mem]
        exact JobRegistry.mem_cancelled_cancel.mpr (.inr current)
      dsimp only
      rw [isCancelled, advance, if_pos rfl, settled.sound.id_eq isLive]
    · exact fun _ isLive => settled.waits isLive
    · intro other notMember isLiveOther isCancelled
      rcases JobRegistry.mem_cancelled_cancel.mp isCancelled with before | currentOther
      · exact settled.uncancelled isLiveOther before
      · exact notMember (List.mem_singleton.mpr (settled.sound.token_eq currentOther))
  · rw [if_neg registered]
    refine ⟨[], rfl, soundMoved, settled.waits, fun isLive => ?_⟩
    dsimp only [moveAll, List.foldl]
    rw [registry_requestAbort registered]
    exact settled.uncancelled isLive

theorem reaches_shutdownThrough (settled : system.Settled) (outages : Outages) :
    system.Reaches (system.engine.shutdownThrough outages) := by
  let moves : List Move := [.occurrence (.operation .shutdown)]
  have moved : system.moveAll moves = { system with engine := system.engine.requestShutdown } := rfl
  have soundMoved : (system.moveAll moves).Sound := settled.sound.requestShutdown
  suffices reaches : (system.moveAll moves).Reaches (system.engine.shutdownThrough outages) from
    reaches.of_moveAll
  rw [moved] at soundMoved ⊢
  refine soundMoved.reaches_finishAllThrough outages .aborted
    (Std.ExtTreeMap.nodup_keys : system.engine.running.Nodup) ?_ ?_ ?_
  · intro id isRegistered
    obtain ⟨job, isLive⟩ := Option.isSome_iff_exists.mp (settled.sound.isLive isRegistered)
    have isCancelled : system.engine.registry.shutdown.isCancelled id = true := by
      rw [JobRegistry.isCancelled, List.contains_iff_mem]
      exact JobRegistry.mem_cancelled_shutdown.mpr
        (.inr ⟨id, settled.sound.tokens_eq isRegistered⟩)
    refine ⟨job, isLive, fun engine => ?_⟩
    dsimp only [requestShutdown]
    rw [isCancelled, advance, if_pos rfl, settled.sound.id_eq isLive]
  · exact fun _ isLive => settled.waits isLive
  · intro id unregistered isLive
    exact absurd (settled.isLive_iff.mp isLive) unregistered

theorem reaches_closeStreamsThrough (settled : system.Settled) (outages : Outages) :
    system.Reaches (system.engine.closeStreamsThrough outages) := by
  let move : Move := .occurrence (.operation .closeStreams)
  have moved : system.moveAll [move] =
      { system with live := fun id => (system.live id).map LiveJob.close } := rfl
  have soundMoved : (system.moveAll [move]).Sound := settled.sound.move move
  suffices reaches : (system.moveAll [move]).Reaches
      (system.engine.closeStreamsThrough outages) from reaches.of_moveAll
  rw [moved] at soundMoved ⊢
  refine soundMoved.reaches_finishAllThrough outages .finished
    (Std.ExtTreeMap.nodup_keys : system.engine.running.Nodup) ?_ ?_ ?_
  · intro id isRegistered
    obtain ⟨job, isLive⟩ := Option.isSome_iff_exists.mp (settled.sound.isLive isRegistered)
    obtain ⟨pending_eq, ending_eq⟩ := settled.waits isLive
    have closed : (system.live id).map LiveJob.close = some job.close := by rw [isLive]; rfl
    refine ⟨job.close, closed, fun engine => ?_⟩
    dsimp only
    rw [settled.isCancelled_eq (settled.sound.isLive isRegistered), advance,
      if_neg Bool.false_ne_true, LiveJob.close]
    dsimp only
    rw [pending_eq, ending_eq, settled.sound.id_eq isLive]
    rfl
  · intro id job unregistered isLive
    have isLiveBefore : (system.live id).isSome = true :=
      Option.isSome_map.symm.trans (Option.isSome_of_eq_some isLive)
    exact absurd (settled.isLive_iff.mp isLiveBefore) unregistered
  · intro id unregistered isLive
    exact absurd (settled.isLive_iff.mp (Option.isSome_map.symm.trans isLive)) unregistered

/-- Whatever an occurrence makes of a settled engine, some moves lead there. -/
theorem reaches_undergoThrough (settled : system.Settled) (outages : Outages)
    (occurrence : Occurrence) :
    system.Reaches (system.engine.undergoThrough outages occurrence) := by
  have stays {id : Int} (isStored : (system.engine.state? id).isSome = true) :
      (system.engine.state? id).isSome = true := isStored
  cases occurrence with
  | outage outage =>
      exact settled.reaches_with_engine (.occurrence (.outage outage)) rfl rfl stays
  | write write =>
      exact settled.reaches_with_engine (.occurrence (.write write)) rfl rfl
        (JobConnection.isSome_state?_write write)
  | operation operation =>
      let move : Move := .occurrence (.operation operation)
      cases operation with
      | start query range => exact settled.reaches_startThrough outages query range
      | abort id => exact settled.reaches_abort outages id
      | shutdown => exact settled.reaches_shutdownThrough outages
      | closeStreams => exact settled.reaches_closeStreamsThrough outages
      | addEvent event => exact settled.reaches_with_engine move rfl rfl stays
      | setConfig config => exact settled.reaches_with_engine move rfl rfl stays
      | keepOpen keepsOpen => exact settled.reaches_with_engine move rfl rfl stays

end Settled

/-- Take any history of an engine that has not been used, with requests that begin and cease to fail
in the course of its operations.  Some moves of the live engine lead to the same engine, and then
all jobs that are still registered are live and wait. -/
theorem exists_moves_of_undergoAllThrough (events : EventStore) (configs : ConfigSource)
    (jobs : JobConnection) (keepsOpen : Bool) (history : List (Occurrence × Outages)) :
    ∃ moves,
      let moved := moveAll { engine := unused events configs jobs keepsOpen } moves
      moved.engine = (unused events configs jobs keepsOpen).undergoAllThrough history ∧
        ∀ id, id ∈ moved.engine.running ↔
          ∃ job, moved.live id = some job ∧ job.pending = [] ∧ job.ending? = none := by
  suffices reaches : ∀ system : LiveEngine, system.Settled →
      system.Reaches (system.engine.undergoAllThrough history) by
    have settledUnused : Settled { engine := unused events configs jobs keepsOpen } :=
      ⟨.unused events configs jobs keepsOpen, nofun, nofun⟩
    obtain ⟨moves, engine_eq, settled⟩ := reaches _ settledUnused
    refine ⟨moves, engine_eq, fun id => settled.isLive_iff.symm.trans ?_⟩
    rw [Option.isSome_iff_exists]
    exact exists_congr fun job => ⟨fun isLive => ⟨isLive, settled.waits isLive⟩, And.left⟩
  intro system settled
  induction history generalizing system with
  | nil => exact ⟨[], rfl, settled⟩
  | cons event history inductionHypothesis =>
      obtain ⟨moves, engine_eq, settledBehind⟩ :=
        settled.reaches_undergoThrough event.2 event.1
      have behind := inductionHypothesis (system.moveAll moves) settledBehind
      rw [engine_eq] at behind
      exact behind.of_moveAll

end LiveEngine

end LogQuery
