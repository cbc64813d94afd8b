import LogQuery.Proofs.Job.Abort
import LogQuery.Proofs.Job.Registry
import Mathlib.Logic.Function.Basic

/-!
# Engines whose jobs have turns

Between two batches of a job anything may happen: an operation, the turn of another job, a request
that begins to fail.  In a live engine operations are only requested, and the jobs notice when they
have their turns.  However the moves come, a registered job is live, and a live job that is not
registered any more has been cancelled.
-/

namespace LogQuery

open LogQuery.Config LogQuery.Pipeline

/-- Something that happens to a live engine. -/
inductive Move where
  /-- An operation is requested, requests begin or cease to fail, or others write to the store. -/
  | occurrence (occurrence : JobEngine.Occurrence)
  /-- A job has its turn. -/
  | turn (id : Int)

/-- A job that waits is told that no further events will come. -/
def LiveJob.close (job : LiveJob) : LiveJob :=
  { job with ending? := some (job.ending?.getD .finished) }

/-- An engine, and the jobs that have begun to run and have not ended. -/
structure LiveEngine where
  engine : JobEngine
  live : Int → Option LiveJob := fun _ => none

namespace LiveEngine

open JobEngine

/-- An operation is requested.  What it asks of jobs that have begun to run is left to them. -/
def request (system : LiveEngine) : Operation → LiveEngine
  | .start query range =>
      match system.engine.prepare query range with
      | (.error _, engine) => { system with engine }
      | (.ok job, engine) => { engine, live := Function.update system.live job.id (some job) }
  | .abort id => { system with engine := (system.engine.requestAbort id).2 }
  | .shutdown => { system with engine := system.engine.requestShutdown }
  | .closeStreams => { system with live := fun id => (system.live id).map LiveJob.close }
  | .addEvent event => { system with engine := (system.engine.addEvent event).2 }
  | .setConfig config => { system with engine := system.engine.setConfig config }
  | .keepOpen keepsOpen => { system with engine := { system.engine with keepsOpen } }

/-- A job has its turn, if it is live. -/
def turn (system : LiveEngine) (id : Int) : LiveEngine :=
  match system.live id with
  | none => system
  | some job =>
      let (engine, live?) := system.engine.advance job (system.engine.registry.isCancelled id)
      { engine, live := Function.update system.live id live? }

/-- The live engine after one move. -/
def move (system : LiveEngine) : Move → LiveEngine
  | .occurrence (.operation operation) => system.request operation
  | .occurrence (.outage outage) => { system with engine := system.engine.facing outage }
  | .occurrence (.write write) =>
      { system with
        engine := { system.engine with jobs := system.engine.jobs.write write } }
  | .turn id => system.turn id

/-- The live engine after moves. -/
def moveAll (system : LiveEngine) (moves : List Move) : LiveEngine :=
  moves.foldl move system

end LiveEngine

/-! ## Turns of a job -/

namespace JobEngine

variable {engine : JobEngine}

/-- A turn moves a job to its last state, or it changes what is stored, but no state. -/
theorem advance_cases (engine : JobEngine) (job : LiveJob) (cancelled : Bool) :
    (∃ state, engine.advance job cancelled = (engine.finish job.id state, none)) ∨
      ∃ jobs next, engine.advance job cancelled = ({ engine with jobs }, some next) ∧
        next.id = job.id ∧ engine.jobs.KeepsStates jobs := by
  obtain ⟨id, outputType, pending, nextRow, ending?⟩ := job
  cases cancelled with
  | true => exact .inl ⟨.aborted, rfl⟩
  | false =>
      cases pending with
      | cons batch pending =>
          exact .inr ⟨_, _, rfl, rfl,
            Deposit.keepsStates_store ⟨engine.jobs, nextRow⟩ outputType id batch⟩
      | nil =>
          cases ending? with
          | some state => exact .inl ⟨state, rfl⟩
          | none => exact .inr ⟨engine.jobs, _, rfl, rfl, .refl _⟩

/-- The number of a new job is not that of a stored one. -/
theorem ne_insert_fst_of_isStored {id : Int} (isStored : (engine.state? id).isSome = true)
    (job : NewJob) : id ≠ (engine.jobs.store.insert job).1 := by
  rintro rfl
  have isNew : engine.state? (engine.jobs.store.insert job).1 = none :=
    JobStore.state?_insert_fst engine.jobs.store job
  rw [isNew] at isStored
  cases isStored

end JobEngine

namespace JobRegistry

variable {registry : JobRegistry Int} {id other : Int}

theorem mem_running_iff : id ∈ registry.running ↔ ∃ token, registry.tokens[id]? = some token := by
  rw [running, Std.ExtTreeMap.mem_keys, Std.ExtTreeMap.mem_iff_isSome_getElem?,
    Option.isSome_iff_exists]

theorem mem_cancelled_cancel {token : Int} :
    token ∈ (registry.cancel id).cancelled ↔
      token ∈ registry.cancelled ∨ registry.tokens[id]? = some token := by
  rw [cancel]
  cases registry.tokens[id]? with
  | none => simp
  | some current => simp [or_comm, eq_comm]

theorem mem_cancelled_shutdown {token : Int} :
    token ∈ registry.shutdown.cancelled ↔
      token ∈ registry.cancelled ∨ ∃ id : Int, registry.tokens[id]? = some token := by
  rw [shutdown, List.mem_append, mem_values_tokens, or_comm]

theorem tokens_cancel (registry : JobRegistry Int) (id : Int) :
    (registry.cancel id).tokens = registry.tokens := by
  rw [cancel]
  split
  · rfl
  · rfl

end JobRegistry

namespace LiveEngine

open JobEngine

/-! ## What every move preserves -/

/-- The registry, the live jobs and the store agree on which jobs there are. -/
structure Sound (system : LiveEngine) : Prop where
  token_eq {id token : Int} (current : system.engine.registry.tokens[id]? = some token) :
    token = id
  id_eq {id : Int} {job : LiveJob} (isLive : system.live id = some job) : job.id = id
  live_isStored {id : Int} (isLive : (system.live id).isSome = true) :
    (system.engine.state? id).isSome = true
  cancelled_isStored {id : Int} (isCancelled : id ∈ system.engine.registry.cancelled) :
    (system.engine.state? id).isSome = true
  isLive {id : Int} (registered : id ∈ system.engine.running) : (system.live id).isSome = true
  isCancelled {id : Int} (isLive : (system.live id).isSome = true)
    (unregistered : id ∉ system.engine.running) : id ∈ system.engine.registry.cancelled

namespace Sound

variable {system : LiveEngine}

theorem tokens_eq (sound : system.Sound) {id : Int} (registered : id ∈ system.engine.running) :
    system.engine.registry.tokens[id]? = some id := by
  obtain ⟨token, current⟩ := JobRegistry.mem_running_iff.mp registered
  rwa [sound.token_eq current] at current

/-- An engine that has not been used has no jobs. -/
theorem unused (events : EventStore) (configs : ConfigSource) (jobs : JobConnection)
    (keepsOpen : Bool) : Sound { engine := unused events configs jobs keepsOpen } where
  token_eq current := by
    have empty : (∅ : Std.ExtTreeMap Int Int compare)[_]? = some _ := current
    rw [Std.ExtTreeMap.getElem?_empty] at empty
    cases empty
  id_eq isLive := by cases isLive
  live_isStored isLive := by cases isLive
  cancelled_isStored isCancelled := by cases isCancelled
  isLive registered := by
    have empty : _ ∈ (JobRegistry.empty : JobRegistry Int).running := registered
    rw [JobRegistry.running_empty] at empty
    cases empty
  isCancelled isLive := by cases isLive

/-- Changes of the engine that leave its registry and remove no stored job. -/
theorem with_engine (sound : system.Sound) {engine : JobEngine}
    (registry_eq : engine.registry = system.engine.registry)
    (stored : ∀ {id}, (system.engine.state? id).isSome = true →
      (engine.state? id).isSome = true) : Sound { system with engine } := by
  have running_eq : engine.running = system.engine.running := congrArg (·.running) registry_eq
  constructor
  · intro id token current
    exact sound.token_eq ((congrArg (·.tokens[id]?) registry_eq).symm.trans current)
  · exact sound.id_eq
  · exact fun isLive => stored (sound.live_isStored isLive)
  · intro id isCancelled
    have cancelledBefore : id ∈ system.engine.registry.cancelled := by rwa [← registry_eq]
    exact stored (sound.cancelled_isStored cancelledBefore)
  · intro id registered
    have registeredBefore : id ∈ system.engine.running := by rwa [← running_eq]
    exact sound.isLive registeredBefore
  · intro id isLive unregistered
    have unregisteredBefore : id ∉ system.engine.running := by rwa [← running_eq]
    have isCancelled := sound.isCancelled isLive unregisteredBefore
    rwa [← registry_eq] at isCancelled

/-- Changes of the live jobs that add none and remove none. -/
theorem with_live (sound : system.Sound) {live : Int → Option LiveJob}
    (id_eq : ∀ {id job}, live id = some job → job.id = id)
    (same : ∀ id, (live id).isSome = (system.live id).isSome) : Sound { system with live } where
  token_eq := sound.token_eq
  id_eq := id_eq
  live_isStored isLive := sound.live_isStored ((same _).symm.trans isLive)
  cancelled_isStored := sound.cancelled_isStored
  isLive registered := (same _).trans (sound.isLive registered)
  isCancelled isLive := sound.isCancelled ((same _).symm.trans isLive)

/-- A job ends: it is forgotten, and it is not live any more. -/
theorem finish (sound : system.Sound) (id : Int) (state : JobState) :
    Sound { engine := system.engine.finish id state
            live := Function.update system.live id none } := by
  have stored {other : Int} (isStored : (system.engine.state? other).isSome = true) :
      ((system.engine.finish id state).state? other).isSome = true :=
    (isSome_state?_finish system.engine id state other).trans isStored
  have liveBefore {other : Int} {job : LiveJob}
      (isLive : Function.update system.live id none other = some job) :
      system.live other = some job ∧ other ≠ id := by
    by_cases same : other = id
    · rw [same, Function.update_self] at isLive
      cases isLive
    · rw [Function.update_of_ne same] at isLive
      exact ⟨isLive, same⟩
  constructor
  · intro other token current
    have erased : (system.engine.registry.tokens.erase id)[other]? = some token := current
    rw [Std.ExtTreeMap.getElem?_erase] at erased
    split at erased
    · cases erased
    · exact sound.token_eq erased
  · exact fun isLive => sound.id_eq (liveBefore isLive).1
  · intro other isLive
    obtain ⟨job, isLive⟩ := Option.isSome_iff_exists.mp isLive
    exact stored (sound.live_isStored (Option.isSome_of_eq_some (liveBefore isLive).1))
  · exact fun isCancelled => stored (sound.cancelled_isStored isCancelled)
  · intro other registered
    obtain ⟨isOther, registered⟩ := mem_running_finish.mp registered
    dsimp only
    rw [Function.update_of_ne isOther]
    exact sound.isLive registered
  · intro other isLive unregistered
    obtain ⟨job, isLive⟩ := Option.isSome_iff_exists.mp isLive
    obtain ⟨isLive, isOther⟩ := liveBefore isLive
    refine sound.isCancelled (Option.isSome_of_eq_some isLive) fun registered => unregistered ?_
    exact mem_running_finish.mpr ⟨isOther, registered⟩

/-- What the turn of a job preserves. -/
theorem turn (sound : system.Sound) (id : Int) : (system.turn id).Sound := by
  unfold LiveEngine.turn
  cases isLive : system.live id with
  | none => exact sound
  | some job =>
      dsimp only
      obtain rfl := sound.id_eq isLive
      rcases advance_cases system.engine job (system.engine.registry.isCancelled job.id) with
        ⟨state, ends⟩ | ⟨jobs, next, goesOn, same, keeps⟩
      · rw [ends]
        exact sound.finish job.id state
      · rw [goesOn]
        have stored : Sound { system with engine := { system.engine with jobs } } := by
          refine sound.with_engine rfl fun {other} isStored => ?_
          exact (congrArg Option.isSome (keeps.state?_eq other)).trans isStored
        refine stored.with_live ?_ ?_
        · intro other following isLive
          by_cases isSame : other = job.id
          · rw [isSame, Function.update_self] at isLive
            cases isLive
            rw [isSame, same]
          · rw [Function.update_of_ne isSame] at isLive
            exact sound.id_eq isLive
        · intro other
          by_cases isSame : other = job.id
          · rw [isSame, Function.update_self, isLive]
            rfl
          · rw [Function.update_of_ne isSame]

/-- What the request to abort a job preserves. -/
theorem requestAbort (sound : system.Sound) (id : Int) :
    Sound { system with engine := (system.engine.requestAbort id).2 } := by
  by_cases registered : system.engine.registry.contains id = true
  · rw [requestAbort_of_registered registered]
    constructor
    · intro other token current
      have before : system.engine.registry.tokens[other]? = some token := by
        rwa [← JobRegistry.tokens_cancel system.engine.registry id]
      exact sound.token_eq before
    · exact sound.id_eq
    · exact sound.live_isStored
    · intro other isCancelled
      rcases JobRegistry.mem_cancelled_cancel.mp isCancelled with before | current
      · exact sound.cancelled_isStored before
      · obtain rfl := sound.token_eq current
        exact sound.live_isStored (sound.isLive (JobRegistry.mem_running_iff.mpr ⟨_, current⟩))
    · intro other stillRegistered
      have before : other ∈ system.engine.running := by
        rwa [running, ← JobRegistry.running_cancel system.engine.registry id]
      exact sound.isLive before
    · intro other isLive unregistered
      refine JobRegistry.mem_cancelled_cancel.mpr (.inl (sound.isCancelled isLive ?_))
      rwa [running, ← JobRegistry.running_cancel system.engine.registry id]
  · rcases requestAbort_cases registered with ⟨error, requested, -⟩ | ⟨jobs, requested, jobs_eq⟩
    · rw [requested]
      exact sound
    · rw [requested]
      refine sound.with_engine rfl fun {other} isStored => ?_
      rcases jobs_eq with rfl | rfl
      · exact isStored
      · exact (isSome_state?_finish system.engine id .aborted other).trans isStored

/-- What the request to shut down preserves. -/
theorem requestShutdown (sound : system.Sound) :
    Sound { system with engine := system.engine.requestShutdown } where
  token_eq current := by
    have empty : (∅ : Std.ExtTreeMap Int Int compare)[_]? = some _ := current
    rw [Std.ExtTreeMap.getElem?_empty] at empty
    cases empty
  id_eq := sound.id_eq
  live_isStored := sound.live_isStored
  cancelled_isStored isCancelled := by
    rcases JobRegistry.mem_cancelled_shutdown.mp isCancelled with before | ⟨id, current⟩
    · exact sound.cancelled_isStored before
    · obtain rfl := sound.token_eq current
      exact sound.live_isStored (sound.isLive (JobRegistry.mem_running_iff.mpr ⟨_, current⟩))
  isLive registered := absurd registered (JobRegistry.notMem_running_shutdown _ _)
  isCancelled {id} isLive _ := by
    refine JobRegistry.mem_cancelled_shutdown.mpr ?_
    by_cases registered : id ∈ system.engine.running
    · exact .inr ⟨id, sound.tokens_eq registered⟩
    · exact .inl (sound.isCancelled isLive registered)

/-- The number of a new job is not that of a live one. -/
theorem live_insert_fst (sound : system.Sound) (job : NewJob) :
    system.live (system.engine.jobs.store.insert job).1 = none := by
  rw [← Option.not_isSome_iff_eq_none]
  exact fun isLive => ne_insert_fst_of_isStored (sound.live_isStored isLive) job rfl

/-- The number of a new job is not that of a cancelled one. -/
theorem insert_fst_not_mem_cancelled (sound : system.Sound) (job : NewJob) :
    (system.engine.jobs.store.insert job).1 ∉ system.engine.registry.cancelled :=
  fun isCancelled => ne_insert_fst_of_isStored (sound.cancelled_isStored isCancelled) job rfl

/-- A new job is recorded, registered and live. -/
theorem enroll (sound : system.Sound) (job : NewJob) {next : LiveJob}
    (id_eq : next.id = (system.engine.jobs.store.insert job).1) :
    Sound { engine := system.engine.enroll job
            live := Function.update system.live next.id (some next) } := by
  have stored {other : Int}
      (isStored : other = next.id ∨ (system.engine.state? other).isSome = true) :
      ((system.engine.enroll job).state? other).isSome = true := by
    rw [state?_enroll, ← id_eq]
    split
    · rfl
    · next isOther => exact isStored.resolve_left isOther
  have liveBefore {other : Int} (isOther : other ≠ next.id) :
      Function.update system.live next.id (some next) other = system.live other :=
    Function.update_of_ne isOther _ _
  have registered_iff {other : Int} :
      other ∈ (system.engine.enroll job).running ↔
        other = next.id ∨ other ∈ system.engine.running := by
    rw [mem_running_enroll, ← id_eq]
  constructor
  · intro other token current
    have inserted :
        (system.engine.registry.tokens.insert next.id next.id)[other]? = some token := by
      rw [id_eq]
      exact current
    rw [Std.ExtTreeMap.getElem?_insert] at inserted
    split at inserted
    · next same =>
        cases inserted
        exact Std.compare_eq_iff_eq.mp same
    · exact sound.token_eq inserted
  · intro other following isLive
    dsimp only at isLive
    by_cases same : other = next.id
    · rw [same, Function.update_self] at isLive
      cases isLive
      exact same.symm
    · exact sound.id_eq ((liveBefore same).symm.trans isLive)
  · intro other isLive
    by_cases same : other = next.id
    · exact stored (.inl same)
    · have isLiveBefore : (system.live other).isSome = true := by rwa [← liveBefore same]
      exact stored (.inr (sound.live_isStored isLiveBefore))
  · exact fun isCancelled => stored (.inr (sound.cancelled_isStored isCancelled))
  · intro other registered
    by_cases same : other = next.id
    · dsimp only
      rw [same, Function.update_self]
      rfl
    · exact (congrArg Option.isSome (liveBefore same)).trans
        (sound.isLive ((registered_iff.mp registered).resolve_left same))
  · intro other isLive unregistered
    obtain ⟨isOther, unregistered⟩ := not_or.mp (mt registered_iff.mpr unregistered)
    have isLiveBefore : (system.live other).isSome = true := by rwa [← liveBefore isOther]
    exact sound.isCancelled isLiveBefore unregistered

/-- What a start preserves. -/
theorem start (sound : system.Sound) (query : String) (range : TimeRange) :
    (system.request (.start query range)).Sound := by
  have prepares := system.engine.prepares query range
  rw [request]
  generalize system.engine.prepare query range = prepared at prepares
  obtain ⟨answer, engine⟩ := prepared
  cases prepares with
  | misread compiled => exact sound
  | unrecorded compiled fails => exact sound
  | @refused _ job compiled job_eq records stopped =>
      have recorded : Sound { system with engine := system.engine.addJob job } := by
        refine sound.with_engine rfl fun {other} isStored => ?_
        rw [state?_addJob]
        split
        · rfl
        · exact isStored
      have refused := recorded.finish (system.engine.jobs.store.insert job).1 .aborted
      have same : Function.update system.live (system.engine.jobs.store.insert job).1 none =
          system.live :=
        Function.update_eq_self_iff.mpr (sound.live_insert_fst job).symm
      dsimp only at refused
      rwa [same] at refused
  | @launched pipeline job compiled job_eq records accepts =>
      let id := (system.engine.jobs.store.insert job).1
      let next := ((system.engine.enroll job).launch id pipeline).1
      have id_eq : next.id = id := rfl
      exact (sound.enroll job id_eq).with_engine rfl (fun isStored => isStored)

/-- What any move preserves. -/
theorem move (sound : system.Sound) (move : Move) : (system.move move).Sound := by
  cases move with
  | turn id => exact sound.turn id
  | occurrence occurrence =>
      cases occurrence with
      | outage outage => exact sound.with_engine rfl id
      | write write => exact sound.with_engine rfl (JobConnection.isSome_state?_write write)
      | operation operation =>
          cases operation with
          | start query range => exact sound.start query range
          | abort id => exact sound.requestAbort id
          | shutdown => exact sound.requestShutdown
          | closeStreams =>
              refine sound.with_live ?_ fun _ => Option.isSome_map
              intro id job isLive
              obtain ⟨before, isLiveBefore, rfl⟩ := Option.map_eq_some_iff.mp isLive
              have sameId : before.close.id = before.id := rfl
              exact sameId.trans (sound.id_eq isLiveBefore)
          | addEvent event => exact sound.with_engine rfl id
          | setConfig config => exact sound.with_engine rfl id
          | keepOpen keepsOpen => exact sound.with_engine rfl id

/-- What a run preserves. -/
theorem moveAll (sound : system.Sound) (moves : List Move) : (system.moveAll moves).Sound := by
  induction moves generalizing system with
  | nil => exact sound
  | cons move moves inductionHypothesis => exact inductionHypothesis (sound.move move)

end Sound

end LiveEngine

end LogQuery
