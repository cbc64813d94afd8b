import LogQuery.Proofs.Job.State

/-!
# Which tokens a registry cancels

A registry is called in some order, and what it knows is a matter of that history: a job is
registered if it has not been removed since it was registered, and its token is that of its latest
registration.  A call reaches a token only through the job that has it at the moment of the call, so
the cancelled tokens are those that some call has reached.  A shutdown is the last call to reach
any.
-/

namespace LogQuery

open Std

/-- What a registry is called for. -/
inductive RegistryCall (Token : Type) where
  | register (id : Int) (token : Token)
  | cancel (id : Int)
  | remove (id : Int)
  | running
  | shutdown

/-- What a call gives. -/
inductive RegistryReply where
  | done
  | refused (error : RegistryError)
  /-- Whether there was a job to cancel. -/
  | cancelled (isRegistered : Bool)
  | running (ids : List Int)

variable {Token : Type}

namespace JobRegistry

/-- What a call gives, and the registry behind it. -/
def serve (registry : JobRegistry Token) :
    RegistryCall Token → RegistryReply × JobRegistry Token
  | .register id token =>
      match registry.register id token with
      | .ok changed => (.done, changed)
      | .error error => (.refused error, registry)
  | .cancel id => (.cancelled (registry.contains id), registry.cancel id)
  | .remove id => (.done, registry.remove id)
  | .running => (.running registry.running, registry)
  | .shutdown => (.done, registry.shutdown)

/-- The registry behind calls. -/
def serveAll (registry : JobRegistry Token) (calls : List (RegistryCall Token)) :
    JobRegistry Token :=
  calls.foldl (fun registry call => (registry.serve call).2) registry

end JobRegistry

/-! ## Histories -/

namespace RegistryCall

/-- Whether some call has begun what no later call has ended. -/
def Since (begins ends : RegistryCall Token → Prop) (history : List (RegistryCall Token)) : Prop :=
  ∃ before call behind, history = before ++ call :: behind ∧ begins call ∧
    ∀ later ∈ behind, ¬ ends later

/-- A job has been registered, and not removed since. -/
def IsRegistered (history : List (RegistryCall Token)) (id : Int) : Prop :=
  Since (fun call => ∃ token, call = .register id token) (· = .remove id) history

/-- A job has been registered with a token, and since then neither removed nor registered anew. -/
def IsCurrent (history : List (RegistryCall Token)) (id : Int) (token : Token) : Prop :=
  Since (· = .register id token)
    (fun call => call = .remove id ∨ ∃ other, call = .register id other) history

/-- A call cancels the current token of its job, or it cancels the current tokens of all jobs. -/
inductive Reaches (history : List (RegistryCall Token)) : RegistryCall Token → Token → Prop where
  | cancel {id : Int} {token : Token} (current : IsCurrent history id token) :
      Reaches history (.cancel id) token
  | shutdown {id : Int} {token : Token} (current : IsCurrent history id token) :
      Reaches history .shutdown token

variable {history : List (RegistryCall Token)} {call : RegistryCall Token} {id : Int}
  {token : Token}

/-- The last of some calls was made behind all others; any other was made before. -/
theorem exists_moment_append_singleton
    (Made : List (RegistryCall Token) → RegistryCall Token → List (RegistryCall Token) → Prop) :
    (∃ before made behind, history ++ [call] = before ++ made :: behind ∧ Made before made behind) ↔
      Made history call [] ∨
        ∃ before made behind, history = before ++ made :: behind ∧
          Made before made (behind ++ [call]) := by
  constructor
  · rintro ⟨before, made, behind, split, holds⟩
    rcases List.eq_nil_or_concat behind with rfl | ⟨earlier, last, rfl⟩
    · obtain ⟨rfl, same⟩ := List.append_inj' split rfl
      obtain rfl := List.singleton_inj.mp same
      exact .inl holds
    · rw [List.concat_eq_append, ← List.cons_append, ← List.append_assoc] at split
      obtain ⟨rfl, same⟩ := List.append_inj' split rfl
      obtain rfl := List.singleton_inj.mp same
      rw [List.concat_eq_append] at holds
      exact .inr ⟨before, made, earlier, rfl, holds⟩
  · rintro (holds | ⟨before, made, behind, rfl, holds⟩)
    · exact ⟨history, call, [], rfl, holds⟩
    · exact ⟨before, made, behind ++ [call], by simp, holds⟩

theorem since_append_singleton {begins ends : RegistryCall Token → Prop} :
    Since begins ends (history ++ [call]) ↔
      begins call ∨ (Since begins ends history ∧ ¬ ends call) := by
  refine (exists_moment_append_singleton _).trans (or_congr ?_ ?_)
  · simp
  · constructor
    · rintro ⟨before, made, behind, split, begun, lasts⟩
      rw [List.forall_mem_append, List.forall_mem_singleton] at lasts
      exact ⟨⟨before, made, behind, split, begun, lasts.1⟩, lasts.2⟩
    · rintro ⟨⟨before, made, behind, split, begun, lasts⟩, goesOn⟩
      refine ⟨before, made, behind, split, begun, ?_⟩
      rw [List.forall_mem_append, List.forall_mem_singleton]
      exact ⟨lasts, goesOn⟩

theorem not_since_nil {begins ends : RegistryCall Token → Prop} : ¬ Since begins ends [] := by
  rintro ⟨before, call, behind, split, -⟩
  cases before with
  | nil => cases split
  | cons => cases split

end RegistryCall

/-! ## One call -/

namespace JobRegistry

variable {registry : JobRegistry Token} {call : RegistryCall Token} {id : Int} {token : Token}

/-- A job is registered unless the registry has stopped. -/
theorem serve_register (registry : JobRegistry Token) (id : Int) (token : Token) :
    registry.serve (.register id token) =
      if registry.hasStopped then (.refused .stopped, registry)
      else (.done, { registry with tokens := registry.tokens.insert id token }) := by
  rw [serve, register]
  cases registry.hasStopped with
  | true => rfl
  | false => rfl

theorem mem_values_tokens :
    token ∈ registry.tokens.values ↔ ∃ id : Int, registry.tokens[id]? = some token := by
  have values_eq (tokens : ExtTreeMap Int Token compare) :
      tokens.values = tokens.toList.map Prod.snd := by
    obtain ⟨⟨tokens⟩⟩ := tokens
    induction tokens using Quotient.ind with
    | _ tokens =>
        change DTreeMap.Internal.Impl.values _ = (DTreeMap.Internal.Impl.Const.toList _).map _
        rw [DTreeMap.Internal.Impl.values_eq_map_snd,
          DTreeMap.Internal.Impl.Const.toList_eq_toListModel_map, List.map_map]
        rfl
  rw [values_eq]
  simp only [List.mem_map, Prod.exists, exists_eq_right, ExtTreeMap.mem_toList_iff_getElem?_eq_some]

/-- A call that is no shutdown does not stop a registry. -/
theorem hasStopped_serve (other : call ≠ .shutdown) :
    (registry.serve call).2.hasStopped = registry.hasStopped := by
  cases call with
  | register id token =>
      rw [serve_register]
      split
      · rfl
      · rfl
  | cancel id => exact hasStopped_cancel registry id
  | remove id => rfl
  | running => rfl
  | shutdown => exact absurd rfl other

/-- A job gets the token that it is registered with, and loses it when it is removed. -/
theorem getElem?_tokens_serve (running : registry.hasStopped = false)
    (other : call ≠ .shutdown) :
    (registry.serve call).2.tokens[id]? = some token ↔
      call = .register id token ∨ (registry.tokens[id]? = some token ∧
        ¬ (call = .remove id ∨ ∃ other, call = .register id other)) := by
  cases call with
  | register registered newToken =>
      rw [serve_register, running]
      simp only [Bool.false_eq_true, if_false, ExtTreeMap.getElem?_insert,
        LawfulEqCmp.compare_eq_iff_eq]
      by_cases same : registered = id
      · simp [same]
      · simp [same]
  | cancel cancelled =>
      have kept : (registry.cancel cancelled).tokens = registry.tokens := by
        rw [cancel]
        split
        · rfl
        · rfl
      simp [serve, kept]
  | remove removed =>
      simp only [serve, remove, ExtTreeMap.getElem?_erase, LawfulEqCmp.compare_eq_iff_eq]
      by_cases same : removed = id
      · simp [same]
      · simp [same]
  | running => simp [serve]
  | shutdown => exact absurd rfl other

/-- A call cancels the token of its job, or those of all jobs, or none. -/
theorem mem_cancelled_serve :
    token ∈ (registry.serve call).2.cancelled ↔
      token ∈ registry.cancelled ∨
        ∃ id : Int, (call = .cancel id ∨ call = .shutdown) ∧ registry.tokens[id]? = some token := by
  cases call with
  | register registered newToken =>
      rw [serve_register]
      split
      · simp
      · simp
  | cancel cancelled =>
      rw [serve, cancel]
      cases found : registry.tokens[cancelled]? with
      | none => simp [found]
      | some current =>
          simp [found, or_comm, eq_comm]
  | remove removed => simp [serve, remove]
  | running => simp [serve]
  | shutdown => simp [serve, shutdown, mem_values_tokens, or_comm]

/-- A registry that has stopped stays as it is. -/
theorem serve_of_stopped (stopped : registry.hasStopped = true) (tokens_eq : registry.tokens = ∅)
    (call : RegistryCall Token) : (registry.serve call).2 = registry := by
  obtain ⟨tokens, cancelled, hasStopped⟩ := registry
  obtain rfl : hasStopped = true := stopped
  obtain rfl : tokens = ∅ := tokens_eq
  cases call with
  | register id token => rfl
  | cancel id => simp [serve, cancel]
  | remove id => simp [serve, remove]
  | running => rfl
  | shutdown =>
      have values_eq : (∅ : ExtTreeMap Int Token compare).values = [] := by
        rw [List.eq_nil_iff_forall_not_mem]
        intro token member
        obtain ⟨id, found⟩ :=
          (@mem_values_tokens Token ⟨∅, cancelled, true⟩ token).mp member
        rw [ExtTreeMap.getElem?_empty] at found
        cases found
      simp [serve, shutdown, values_eq]

/-! ## Histories of calls -/

variable {history : List (RegistryCall Token)}

theorem serveAll_append_singleton (registry : JobRegistry Token)
    (history : List (RegistryCall Token)) (call : RegistryCall Token) :
    registry.serveAll (history ++ [call]) = ((registry.serveAll history).serve call).2 :=
  List.foldl_append

theorem shutdown_not_mem_append_singleton :
    .shutdown ∉ history ++ [call] ↔ .shutdown ∉ history ∧ call ≠ .shutdown := by
  rw [List.mem_append, List.mem_singleton, not_or, ne_comm]

theorem hasStopped_serveAll_of_not_mem (running : .shutdown ∉ history) :
    ((empty : JobRegistry Token).serveAll history).hasStopped = false := by
  induction history using List.reverseRecOn with
  | nil => rfl
  | append_singleton history call inductionHypothesis =>
      obtain ⟨runningBefore, other⟩ := shutdown_not_mem_append_singleton.mp running
      rw [serveAll_append_singleton, hasStopped_serve other]
      exact inductionHypothesis runningBefore

/-- A shutdown stops a registry for good. -/
theorem stopped_serveAll_of_mem (stopped : .shutdown ∈ history) :
    ((empty : JobRegistry Token).serveAll history).hasStopped = true ∧
      ((empty : JobRegistry Token).serveAll history).tokens = ∅ := by
  induction history using List.reverseRecOn with
  | nil => cases stopped
  | append_singleton history call inductionHypothesis =>
      rw [serveAll_append_singleton]
      by_cases stoppedBefore : .shutdown ∈ history
      · obtain ⟨hasStopped, tokens_eq⟩ := inductionHypothesis stoppedBefore
        rw [serve_of_stopped hasStopped tokens_eq]
        exact ⟨hasStopped, tokens_eq⟩
      · rcases List.mem_append.mp stopped with before | last
        · exact absurd before stoppedBefore
        · obtain rfl := List.mem_singleton.mp last
          exact ⟨rfl, rfl⟩

theorem serveAll_of_stopped (stopped : registry.hasStopped = true) (tokens_eq : registry.tokens = ∅)
    (calls : List (RegistryCall Token)) : registry.serveAll calls = registry := by
  induction calls with
  | nil => rfl
  | cons call calls inductionHypothesis =>
      rw [serveAll, List.foldl_cons, serve_of_stopped stopped tokens_eq]
      exact inductionHypothesis

/-- Before a shutdown the registry holds the current token of each job. -/
theorem getElem?_tokens_serveAll (running : .shutdown ∉ history) :
    ((empty : JobRegistry Token).serveAll history).tokens[id]? = some token ↔
      RegistryCall.IsCurrent history id token := by
  induction history using List.reverseRecOn with
  | nil =>
      refine iff_of_false ?_ RegistryCall.not_since_nil
      simp [serveAll, empty]
  | append_singleton history call inductionHypothesis =>
      obtain ⟨runningBefore, other⟩ := shutdown_not_mem_append_singleton.mp running
      rw [serveAll_append_singleton,
        getElem?_tokens_serve (hasStopped_serveAll_of_not_mem runningBefore) other,
        inductionHypothesis runningBefore, RegistryCall.IsCurrent, RegistryCall.IsCurrent,
        RegistryCall.since_append_singleton]

end JobRegistry

namespace RegistryCall

/-- A job that is registered has one token or another. -/
theorem isRegistered_iff {history : List (RegistryCall Token)} {id : Int} :
    IsRegistered history id ↔ ∃ token, IsCurrent history id token := by
  induction history using List.reverseRecOn with
  | nil => exact iff_of_false not_since_nil fun ⟨_, current⟩ => not_since_nil current
  | append_singleton history call inductionHypothesis =>
      rw [IsRegistered, since_append_singleton, ← IsRegistered, inductionHypothesis]
      simp only [IsCurrent, since_append_singleton, exists_or]
      by_cases registers : ∃ token, call = .register id token
      · simp [registers]
      · simp [registers]

end RegistryCall

namespace JobRegistry

variable {history : List (RegistryCall Token)} {id : Int} {token : Token}

theorem mem_running_serveAll (running : .shutdown ∉ history) :
    id ∈ ((empty : JobRegistry Token).serveAll history).running ↔
      RegistryCall.IsRegistered history id := by
  rw [RegistryCall.isRegistered_iff, JobRegistry.running, ExtTreeMap.mem_keys,
    ExtTreeMap.mem_iff_isSome_getElem?, Option.isSome_iff_exists]
  exact exists_congr fun _ => getElem?_tokens_serveAll running

/-- The cancelled tokens are those that a call has reached. -/
theorem mem_cancelled_serveAll :
    token ∈ ((empty : JobRegistry Token).serveAll history).cancelled ↔
      ∃ before call behind, history = before ++ call :: behind ∧
        .shutdown ∉ before ∧ RegistryCall.Reaches before call token := by
  induction history using List.reverseRecOn with
  | nil => simp [serveAll, empty]
  | append_singleton history call inductionHypothesis =>
      rw [RegistryCall.exists_moment_append_singleton
        (fun before call _ => .shutdown ∉ before ∧ RegistryCall.Reaches before call token),
        ← inductionHypothesis, serveAll_append_singleton, mem_cancelled_serve, or_comm]
      refine or_congr_left ?_
      by_cases running : .shutdown ∈ history
      · simp [running, (stopped_serveAll_of_mem running).2]
      · simp only [getElem?_tokens_serveAll running, running, not_false_eq_true, true_and]
        constructor
        · rintro ⟨id, rfl | rfl, current⟩
          · exact .cancel current
          · exact .shutdown current
        · rintro (⟨current⟩ | ⟨current⟩)
          · exact ⟨_, .inl rfl, current⟩
          · exact ⟨_, .inr rfl, current⟩

/-- Let a registry take any calls.  Before a shutdown it lists the jobs that have been registered
and not removed since, in ascending order and each once; a call to cancel says whether its job is
listed, and every job can be registered.  A token is cancelled exactly if some call has reached it:
one to cancel a job whose current token it was, or a shutdown when it was the current token of a
job.  Behind a shutdown no job can be registered or cancelled, none is listed, and whatever is
called, no further token is cancelled. -/
theorem only_current_tokens_are_cancelled [DecidableEq Token]
    (history : List (RegistryCall Token)) :
    let registry := (empty : JobRegistry Token).serveAll history
    (.shutdown ∉ history →
      ∃ ids, (registry.serve .running).1 = .running ids ∧ ids.Pairwise (· < ·) ∧
        (∀ id, id ∈ ids ↔ RegistryCall.IsRegistered history id) ∧
        (∀ id, (registry.serve (.cancel id)).1 = .cancelled (decide (id ∈ ids))) ∧
        ∀ id token, (registry.serve (.register id token)).1 = .done) ∧
      (∀ token, registry.isCancelled token = true ↔
        ∃ before call behind, history = before ++ call :: behind ∧
          .shutdown ∉ before ∧ RegistryCall.Reaches before call token) ∧
      (.shutdown ∈ history → ∀ calls, let later := registry.serveAll calls
        (∀ id token, (later.serve (.register id token)).1 = .refused .stopped) ∧
          (∀ id, (later.serve (.cancel id)).1 = .cancelled false) ∧
          (later.serve .running).1 = .running [] ∧
          ∀ token, later.isCancelled token = registry.isCancelled token) := by
  intro registry
  refine ⟨fun running => ?_, fun token => ?_, fun stopped calls => ?_⟩
  · refine ⟨registry.running, rfl, ?_, fun id => mem_running_serveAll running, fun id => ?_,
      fun id token => ?_⟩
    · exact ExtTreeMap.ordered_keys.imp fun before => Std.compare_eq_lt.mp before
    · rw [serve, Bool.eq_iff_iff.mpr (contains_eq_true_iff.trans decide_eq_true_iff.symm)]
    · rw [serve_register, hasStopped_serveAll_of_not_mem running]
      rfl
  · rw [isCancelled, List.contains_iff_mem]
    exact mem_cancelled_serveAll
  · obtain ⟨hasStopped, tokens_eq⟩ := stopped_serveAll_of_mem stopped
    rw [serveAll_of_stopped hasStopped tokens_eq]
    refine ⟨fun id token => ?_, fun id => ?_, ?_, fun token => rfl⟩
    · rw [serve_register, hasStopped]
      rfl
    · rw [serve, contains, tokens_eq]
      simp
    · rw [serve, JobRegistry.running, tokens_eq]
      simp

end JobRegistry

end LogQuery
