import LogQuery.Proofs.Pipeline.Builtin
import LogQuery.Proofs.Query.Stage.Parts
import Mathlib

/-!
# Stages whose values are cut into tokens once more

A step cuts its value into tokens again, without the rest of the query.  What it sees are the tokens
of the query itself, so no pipe inside quotes ends a stage, and no value opens a quoted text that is
not closed.
-/

namespace LogQuery.Pipeline

open LogQuery.Query

/-- Where a quoted text of a value is opened that is never closed, if that is the fault. -/
def StepFault.unterminatedQuote? : StepFault → Option Nat
  | .unreadableConditions (.unterminatedQuote offset) => some offset
  | _ => none

/-- Where a quoted text is opened that is never closed, if that is the error. -/
def CompileError.unterminatedQuote? : CompileError → Option Nat
  | .query (.unterminatedQuote offset) => some offset
  | .step fault => fault.unterminatedQuote?
  | _ => none

/-- Whatever builtin step is compiled from the value, with whatever options: it does not fail for
want of a closing quote. -/
def ClosesQuotes (value : String) : Prop :=
  ∀ name options error, StepRegistry.builtin.compileStage { name, options, value } = .error error →
    error.unterminatedQuote? = none

/-- The stages that stand in front of the first pipe: a search for the text as it is, or none if a
query begins with a pipe, perhaps behind white space. -/
inductive ImplicitStages (query : String) (piped : PipedTokens) : List Stage → Prop where
  | none (goesOn : piped.parts ≠ []) (blank : ∀ token ∈ piped.front, token.isBlank = true) :
      ImplicitStages query piped []
  | search {value : String}
      (present : piped.parts = [] ∨ ∃ token ∈ piped.front, token.isBlank = false)
      (begins : ∃ behind, query = value ++ behind)
      (again : tokenize value = .ok (piped.front ++ [⟨.endOfInput, "", value.utf8ByteSize⟩]))
      (closesQuotes : ClosesQuotes value) : ImplicitStages query piped [Stage.search value]

/-- The stage behind a pipe: if there are two or more positional tokens that are no white space, its
value is the part of the query from the first to the last of them and cut into these tokens. -/
def ExplicitStage (query : String) (part : PipedPart) (stage : Stage) : Prop :=
  ∃ positional, SpellsStage part.behind stage positional ∧
    ∀ first between last, SpansSignificant positional first between last →
      CutsAlike query stage.value first.offset (first :: between ++ [last]) ∧
        ClosesQuotes stage.value

/-- The stages come from the tokens of the query, and what they keep of it is cut alike again. -/
structure KeepsTokens (query : String) (piped : PipedTokens) (stages : List Stage) : Prop where
  tokenized : tokenize query = .ok (piped.tokens ++ [⟨.endOfInput, "", query.utf8ByteSize⟩])
  stages_eq : ∃ implicit explicit, stages = implicit ++ explicit ∧
    ImplicitStages query piped implicit ∧
    List.Forall₂ (ExplicitStage query) piped.parts explicit

/-! ## Values that can be cut into tokens -/

section Compile

variable {value : String} {tokens : List Token} {options : Fields}

theorem readTime_eq_error {name : String} {error : CompileError}
    (fails : SearchStep.readTime options name = .error error) : error.unterminatedQuote? = none := by
  unfold SearchStep.readTime at fails
  split at fails
  · cases fails
  · split at fails
    · cases fails
    · cases fails
      rfl

theorem SearchStep.unterminatedQuote?_of_compile (tokenized : tokenize value = .ok tokens)
    {error : CompileError} (fails : SearchStep.compile value options = .error error) :
    error.unterminatedQuote? = none := by
  unfold SearchStep.compile at fails
  rcases bind_eq_error_iff.mp fails with fails | ⟨start?, -, fails⟩
  · exact readTime_eq_error fails
  rcases bind_eq_error_iff.mp fails with fails | ⟨stop?, -, fails⟩
  · exact readTime_eq_error fails
  obtain ⟨queryError, unread, rfl⟩ :=
    mapError_eq_error_iff.mp ((bind_eq_error_iff.mp fails).resolve_right (by simp))
  rw [Search.read, tokenized] at unread
  obtain ⟨grammarError, -, rfl⟩ := mapError_eq_error_iff.mp unread
  rfl

theorem Condition.unterminatedQuote?_of_ofTokens {fault : StepFault}
    (fails : Condition.ofTokens tokens = .error fault) : fault.unterminatedQuote? = none := by
  fun_induction Condition.ofTokens tokens with
  | case1 => cases fails
  | case2 _ _ _ _ _ _ _ _ inductionHypothesis =>
      exact inductionHypothesis ((bind_eq_error_iff.mp fails).resolve_right (by simp))
  | case3 =>
      cases fails
      rfl
  | case4 =>
      cases fails
      rfl

theorem WhereStep.unterminatedQuote?_of_compile (tokenized : tokenize value = .ok tokens)
    {fault : StepFault} (fails : WhereStep.compile value options = .error fault) :
    fault.unterminatedQuote? = none := by
  unfold WhereStep.compile at fails
  rw [tokenized] at fails
  rcases bind_eq_error_iff.mp fails with fails | ⟨conditions, -, fails⟩
  · cases fails
  rcases bind_eq_error_iff.mp fails with fails | ⟨conditions, -, fails⟩
  · exact Condition.unterminatedQuote?_of_ofTokens fails
  split at fails
  · cases fails
    rfl
  · cases fails

theorem RexStep.unterminatedQuote?_of_compile {fault : StepFault}
    (fails : RexStep.compile value options = .error fault) : fault.unterminatedQuote? = none := by
  unfold RexStep.compile at fails
  split at fails
  · cases fails
    rfl
  · split at fails
    · cases fails
      rfl
    · cases fails

theorem TableStep.unterminatedQuote?_of_compile {fault : StepFault}
    (fails : TableStep.compile value = .error fault) : fault.unterminatedQuote? = none := by
  unfold TableStep.compile at fails
  split at fails
  · cases fails
    rfl
  · cases fails

theorem SurroundingStep.unterminatedQuote?_of_compile {fault : StepFault}
    (fails : SurroundingStep.compile value options = .error fault) :
    fault.unterminatedQuote? = none := by
  unfold SurroundingStep.compile at fails
  rcases bind_eq_error_iff.mp fails with fails | ⟨eventId, -, fails⟩
  · unfold SurroundingStep.readEventId at fails
    split at fails
    · cases fails
      rfl
    · obtain ⟨error, -, rfl⟩ := mapError_eq_error_iff.mp fails
      rfl
  · have fails := (bind_eq_error_iff.mp fails).resolve_right (by simp)
    unfold SurroundingStep.readCount at fails
    split at fails
    · cases fails
    · obtain ⟨error, -, rfl⟩ := mapError_eq_error_iff.mp fails
      rfl

/-- Only the steps that cut their value into tokens can miss a closing quote. -/
theorem closesQuotes_of_tokenize (tokenized : tokenize value = .ok tokens) :
    ClosesQuotes value := by
  intro name options error fails
  unfold StepRegistry.compileStage at fails
  split at fails
  · next compiler found =>
      rcases StepRegistry.get?_builtin_eq_some_iff.mp found with ⟨-, rfl⟩ | ⟨-, rfl⟩ | ⟨-, rfl⟩ |
        ⟨-, rfl⟩ | ⟨-, rfl⟩
      · exact SearchStep.unterminatedQuote?_of_compile tokenized (map_eq_error_iff.mp fails)
      all_goals obtain ⟨fault, faulty, rfl⟩ := mapError_eq_error_iff.mp fails
      · exact RexStep.unterminatedQuote?_of_compile (map_eq_error_iff.mp faulty)
      · exact WhereStep.unterminatedQuote?_of_compile tokenized (map_eq_error_iff.mp faulty)
      · exact TableStep.unterminatedQuote?_of_compile (map_eq_error_iff.mp faulty)
      · exact SurroundingStep.unterminatedQuote?_of_compile (map_eq_error_iff.mp faulty)
  · cases fails
    rfl

end Compile

/-! ## Stages -/

section Stages

variable {query : String} {piped : PipedTokens} (cut : tokensFrom 0 query.toList = .ok piped.tokens)

include cut

theorem implicitStages_of_tokensFrom :
    ImplicitStages query piped
      (if piped.front.all Token.isBlank && !piped.parts.isEmpty then []
        else [Stage.search (writtenText piped.front)]) := by
  split
  · next hidden =>
      rw [Bool.and_eq_true, List.all_eq_true, Bool.not_eq_true', List.isEmpty_eq_false_iff] at hidden
      exact .none hidden.2 hidden.1
  · next shown =>
      have present : piped.parts = [] ∨ ∃ token ∈ piped.front, token.isBlank = false := by
        refine or_iff_not_imp_left.mpr fun goesOn => ?_
        have notAll : piped.front.all Token.isBlank = false := by
          simpa [goesOn, ← Bool.not_eq_true] using shown
        obtain ⟨token, member, notBlank⟩ := List.all_eq_false.mp notAll
        exact ⟨token, member, Bool.eq_false_iff.mpr notBlank⟩
      have again := tokenize_writtenText_front cut
      refine .search present ⟨writtenText (piped.parts.flatMap PipedPart.tokens), ?_⟩ again
        (closesQuotes_of_tokenize again)
      rw [← String.toList_inj, ← flatMap_written_of_tokensFrom cut]
      simp [PipedTokens.tokens, writtenText]

theorem explicitStage_of_tokensFrom {part : PipedPart} {stage : Stage}
    (member : part ∈ piped.parts) (reads : ReadsStage part.behind stage) :
    ExplicitStage query part stage := by
  obtain ⟨positional, spells, value_eq⟩ := reads
  refine ⟨positional, spells, ?_⟩
  intro first between last spans
  have run : first :: (between ++ [last]) <:+: piped.tokens := by
    obtain ⟨before, after, around, -⟩ := spans.around
    have inPositional : first :: (between ++ [last]) <:+: positional := ⟨before, after, around.symm⟩
    exact inPositional.trans (spells.suffix.isInfix.trans (PipedTokens.behind_infix member))
  have cutsAlike := cutsAlike_of_tokensFrom cut run
  rw [value_eq, spans.positionalValue_eq]
  obtain ⟨again, tokenized, -⟩ := cutsAlike.again
  exact ⟨cutsAlike, closesQuotes_of_tokenize tokenized⟩

end Stages

/-- Every stage is read from tokens of the query.  Where its value is a part of the query and not
the text of one token, cutting the value gives the tokens of that part again: pipes inside quotes
end no stage, and compiling the value never misses a closing quote. -/
theorem stages_keep_the_tokens_of_the_query {query : String} {stages : List Stage}
    (read : readPipeline query = .ok stages) : ∃ piped, KeepsTokens query piped stages := by
  obtain ⟨piped, named, cut, rfl, spelled⟩ := exists_piped_of_readPipeline read
  have explicit : List.Forall₂ (ExplicitStage query) piped.parts named :=
    ((List.forall₂_and_left _ _).mpr ⟨fun _ member => member, spelled⟩).imp
      fun _ _ ⟨member, reads⟩ => explicitStage_of_tokensFrom cut member reads
  exact ⟨piped, tokenize_eq_ok_iff.mpr ⟨_, cut, rfl⟩, _, named, rfl,
    implicitStages_of_tokensFrom cut, explicit⟩

/-- A pipe in quotes ends no stage and is in quotes again when the value is cut. -/
theorem quoted_pipe_stays_in_its_value :
    let query := "é | where \"a|b\"=c"
    let stages : List Stage := [Stage.search "é ", { name := "where", value := "\"a|b\"=c" }]
    readPipeline query = .ok stages ∧ (∃ piped, KeepsTokens query piped stages) ∧
      tokenize "\"a|b\"=c" = .ok [⟨.quoted, "a|b", 0⟩, ⟨.equals, "=", 5⟩, ⟨.word, "c", 6⟩,
        ⟨.endOfInput, "", 7⟩] := by
  intro query stages
  have read : readPipeline "é | where \"a|b\"=c" =
      .ok [Stage.search "é ", { name := "where", value := "\"a|b\"=c" }] := by
    cbv
  exact ⟨read, stages_keep_the_tokens_of_the_query read, by cbv⟩

end LogQuery.Pipeline
