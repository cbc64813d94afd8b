import LogQuery.Outcome
import Mathlib.Data.List.Forall2

/-!
# How results that may be errors succeed and fail

A step that only translates results or errors succeeds exactly if what it translates does, and a
step over a list succeeds exactly if it does on each member.
-/

namespace LogQuery

variable {ε ε' α β : Type}

theorem mapError_eq_ok_iff {translate : ε → ε'} {outcome : Except ε α} {result : α} :
    outcome.mapError translate = .ok result ↔ outcome = .ok result := by
  cases outcome with
  | error error => simp [Except.mapError]
  | ok value => simp [Except.mapError]

theorem map_eq_ok_iff {translate : α → β} {outcome : Except ε α} {result : β} :
    outcome.map translate = .ok result ↔ ∃ value, outcome = .ok value ∧ translate value = result := by
  cases outcome with
  | error error => simp [Except.map]
  | ok value => simp [Except.map]

theorem mapError_eq_error_iff {translate : ε → ε'} {outcome : Except ε α} {error' : ε'} :
    outcome.mapError translate = .error error' ↔
      ∃ error, outcome = .error error ∧ translate error = error' := by
  cases outcome with
  | error error => simp [Except.mapError]
  | ok value => simp [Except.mapError]

theorem map_eq_error_iff {translate : α → β} {outcome : Except ε α} {error : ε} :
    outcome.map translate = .error error ↔ outcome = .error error := by
  cases outcome with
  | error other => simp [Except.map]
  | ok value => simp [Except.map]

theorem toOption_eq_some_iff {outcome : Except ε α} {result : α} :
    outcome.toOption = some result ↔ outcome = .ok result := by
  cases outcome with
  | error error => simp [Except.toOption]
  | ok value => simp [Except.toOption]

theorem toOption_bind (first : Except ε α) (next : α → Except ε β) :
    (first >>= next).toOption = first.toOption.bind fun value => (next value).toOption := by
  cases first with
  | error error => rfl
  | ok value => rfl

/-- Two steps in a row fail where the first of them does or, behind it, the second. -/
theorem bind_eq_error_iff {first : Except ε α} {next : α → Except ε β} {error : ε} :
    first >>= next = .error error ↔
      first = .error error ∨ ∃ value, first = .ok value ∧ next value = .error error := by
  cases first with
  | error other => simp [bind, Except.bind]
  | ok value => simp [bind, Except.bind]

theorem mapM_eq_ok_iff {run : α → Except ε β} {items : List α} {results : List β} :
    items.mapM run = .ok results ↔
      List.Forall₂ (fun item result => run item = .ok result) items results := by
  induction items generalizing results with
  | nil =>
      cases results with
      | nil => simp [pure, Except.pure]
      | cons result results => simp [pure, Except.pure]
  | cons item items inductionHypothesis =>
      simp only [List.mapM_cons, bind_eq_ok, inductionHypothesis]
      constructor
      · rintro ⟨result, succeeds, others, othersSucceed, made⟩
        obtain rfl := Except.ok.inj made
        exact .cons succeeds othersSucceed
      · rintro (_ | ⟨succeeds, othersSucceed⟩)
        exact ⟨_, succeeds, _, othersSucceed, rfl⟩

/-- A step over a list succeeds if it does on each member. -/
theorem exists_mapM_eq_ok {run : α → Except ε β} {items : List α}
    (succeeds : ∀ item ∈ items, ∃ result, run item = .ok result) :
    ∃ results, items.mapM run = .ok results := by
  induction items with
  | nil => exact ⟨[], rfl⟩
  | cons item items inductionHypothesis =>
      obtain ⟨⟨result, made⟩, others⟩ := List.forall_mem_cons.mp succeeds
      obtain ⟨results, othersMade⟩ := inductionHypothesis others
      exact ⟨result :: results, mapM_eq_ok_iff.mpr (.cons made (mapM_eq_ok_iff.mp othersMade))⟩

/-- A step over a list fails because it does on some member. -/
theorem exists_mem_of_mapM_eq_error {run : α → Except ε β} {items : List α} {error : ε}
    (fails : items.mapM run = .error error) : ∃ item ∈ items, run item = .error error := by
  induction items with
  | nil => cases fails
  | cons item items inductionHypothesis =>
      rw [List.mapM_cons] at fails
      rcases bind_eq_error_iff.mp fails with here | ⟨result, -, behind⟩
      · exact ⟨item, List.mem_cons_self, here⟩
      · rcases bind_eq_error_iff.mp behind with later | ⟨results, -, made⟩
        · obtain ⟨other, member, failsThere⟩ := inductionHypothesis later
          exact ⟨other, List.mem_cons_of_mem item member, failsThere⟩
        · cases made

/-- What is related to members of a list comes from one of them. -/
theorem exists_mem_of_forall₂ {related : α → β → Prop} {items : List α} {results : List β}
    (pairs : List.Forall₂ related items results) {result : β} (member : result ∈ results) :
    ∃ item ∈ items, related item result := by
  induction pairs with
  | nil => cases member
  | cons isRelated _ inductionHypothesis =>
      rcases List.mem_cons.mp member with rfl | member
      · exact ⟨_, List.mem_cons_self, isRelated⟩
      · obtain ⟨item, itemMember, isRelated⟩ := inductionHypothesis member
        exact ⟨item, List.mem_cons_of_mem _ itemMember, isRelated⟩

/-- Each result of a step over a list comes from a member. -/
theorem exists_mem_of_mapM_eq_ok {run : α → Except ε β} {items : List α} {results : List β}
    (succeeds : items.mapM run = .ok results) {result : β} (member : result ∈ results) :
    ∃ item ∈ items, run item = .ok result :=
  exists_mem_of_forall₂ (mapM_eq_ok_iff.mp succeeds) member

end LogQuery
