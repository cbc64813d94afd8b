import LogQuery.Proofs.Pipeline.Composition
import LogQuery.Proofs.Pipeline.Conditions

/-!
# Conditions in quotes

Nothing in quotes is taken for a pipe, an equals sign or the end of a value, neither when the query
is cut into stages nor when the where step cuts the value of its stage once more.  Conditions with
both sides in quotes are therefore read back as they are, and a quoted text at the front begins no
option.
-/

namespace LogQuery.Pipeline

open LogQuery.Query LogQuery.Text

namespace Condition

/-- Both sides can be put in quotes. -/
structure IsQuotable (condition : Condition) : Prop where
  field : Query.IsQuotable condition.field
  value : Query.IsQuotable condition.value

/-- The condition with both sides in quotes. -/
def quoted (condition : Condition) : String :=
  quotation condition.field ++ "=" ++ quotation condition.value

end Condition

/-- Conditions one behind the other, all in quotes. -/
def quotedConditions (conditions : List Condition) : String :=
  " ".intercalate (conditions.map Condition.quoted)

example : quotedConditions [⟨"a|b", "1 \"2\""⟩, ⟨"", "c=d"⟩] =
    "\"a|b\"=\"1 \\\"2\\\"\" \"\"=\"c=d\"" := by
  decide

/-- The tokens of such conditions. -/
inductive SpellsQuoted : List Token → List Condition → Prop where
  | single (condition : Condition) (field sign value : Nat) :
      SpellsQuoted [⟨.quoted, condition.field, field⟩, ⟨.equals, "=", sign⟩,
        ⟨.quoted, condition.value, value⟩] [condition]
  | cons (condition : Condition) (field sign value gap : Nat) {tokens : List Token}
      {conditions : List Condition} (others : SpellsQuoted tokens conditions) :
      SpellsQuoted (⟨.quoted, condition.field, field⟩ :: ⟨.equals, "=", sign⟩ ::
        ⟨.quoted, condition.value, value⟩ :: ⟨.blank, " ", gap⟩ :: tokens) (condition :: conditions)

/-! ## The tokens of conditions -/

theorem Condition.IsQuotable.exists_tokensFrom {condition : Condition} {further : String}
    {readsAs : List Token → Prop} (isQuotable : condition.IsQuotable)
    (behind : ∀ offset, ∃ tokens,
      Query.tokensFrom offset further.toList = .ok tokens ∧ readsAs tokens) (offset : Nat) :
    ∃ sign value tokens, Query.tokensFrom offset (condition.quoted ++ further).toList =
        .ok (⟨.quoted, condition.field, offset⟩ :: ⟨.equals, "=", sign⟩ ::
          ⟨.quoted, condition.value, value⟩ :: tokens) ∧ readsAs tokens := by
  have text_eq : (condition.quoted ++ further).toList = quote condition.field.toList ++
      '=' :: (quote condition.value.toList ++ further.toList) := by
    simp [Condition.quoted, quotation]
  have field := readsTo_quote_append isQuotable.field
    ('=' :: (quote condition.value.toList ++ further.toList))
  have value := readsTo_quote_append isQuotable.value further.toList
  obtain ⟨tokens, cutBehind, reads⟩ := behind _
  have cut : Query.tokensFrom offset _ = .ok (_ :: _ :: _ :: tokens) :=
    field.tokensFrom ((ReadsTo.equals _).tokensFrom (value.tokensFrom cutBehind))
  rw [String.ofList_toList, String.ofList_toList, ← text_eq] at cut
  exact ⟨_, _, tokens, cut, reads⟩

theorem exists_spellsQuoted {conditions : List Condition} (notEmpty : conditions ≠ [])
    (quotable : ∀ condition ∈ conditions, condition.IsQuotable) (offset : Nat) :
    ∃ tokens, tokensFrom offset (quotedConditions conditions).toList = .ok tokens ∧
      SpellsQuoted tokens conditions := by
  induction conditions generalizing offset with
  | nil => exact absurd rfl notEmpty
  | cons condition conditions inductionHypothesis =>
      obtain ⟨isQuotable, othersQuotable⟩ := List.forall_mem_cons.mp quotable
      cases conditions with
      | nil =>
          have nothingBehind (offset : Nat) :
              ∃ tokens, tokensFrom offset "".toList = .ok tokens ∧ tokens = [] :=
            ⟨[], tokensFrom_nil_eq_ok_iff.mpr rfl, rfl⟩
          obtain ⟨sign, value, _, cut, rfl⟩ := isQuotable.exists_tokensFrom nothingBehind offset
          rw [String.append_empty] at cut
          rw [quotedConditions, List.map_singleton, String.intercalate_singleton]
          exact ⟨_, cut, .single condition offset sign value⟩
      | cons other conditions =>
          have othersBehind (offset : Nat) : ∃ tokens,
              tokensFrom offset (" " ++ quotedConditions (other :: conditions)).toList =
                  .ok tokens ∧
                ∃ gap others, tokens = ⟨.blank, " ", gap⟩ :: others ∧
                  SpellsQuoted others (other :: conditions) := by
            obtain ⟨others, cut, spelled⟩ :=
              inductionHypothesis (List.cons_ne_nil _ _) othersQuotable _
            have blank : ReadsTo (' ' :: (quotedConditions (other :: conditions)).toList) .blank
                [' '] (quotedConditions (other :: conditions)).toList := .blank rfl
            have text_eq : (" " ++ quotedConditions (other :: conditions)).toList =
                ' ' :: (quotedConditions (other :: conditions)).toList :=
              String.toList_append
            rw [text_eq]
            exact ⟨_, blank.tokensFrom cut, offset, others, rfl, spelled⟩
          obtain ⟨sign, value, _, cut, gap, others, rfl, spelled⟩ :=
            isQuotable.exists_tokensFrom othersBehind offset
          have text_eq : quotedConditions (condition :: other :: conditions) =
              condition.quoted ++ (" " ++ quotedConditions (other :: conditions)) := by
            rw [quotedConditions, List.map_cons, List.map_cons, String.intercalate_cons_cons,
              String.append_assoc]
            rfl
          rw [text_eq]
          exact ⟨_, cut, .cons condition offset sign value gap spelled⟩

namespace SpellsQuoted

variable {tokens : List Token} {conditions : List Condition}

theorem unpiped (spelled : SpellsQuoted tokens conditions) :
    ∀ token ∈ tokens, token.kind ≠ .pipe := by
  induction spelled with
  | single => simp
  | cons condition field sign value gap others inductionHypothesis => simpa using inductionHypothesis

theorem ofTokens_eq (spelled : SpellsQuoted tokens conditions) :
    Condition.ofTokens tokens = .ok conditions := by
  -- The value of a condition is one token, which white space or the end stands behind.
  have read {condition : Condition} {field sign value : Nat} {behind : List Token}
      {conditions : List Condition} (ends : ∀ token ∈ behind.head?, token.isBlank = true)
      (others : Condition.ofTokens behind = .ok conditions) :
      Condition.ofTokens (⟨.quoted, condition.field, field⟩ :: ⟨.equals, "=", sign⟩ ::
        ([⟨.quoted, condition.value, value⟩] ++ behind)) = .ok (condition :: conditions) := by
    refine (Condition.ofTokens_cons_eq_ok_iff rfl (by simp [Token.isBlank]) ends).mpr
      ⟨rfl, rfl, conditions, others, ?_⟩
    rw [List.map_singleton, String.join_cons, String.join_nil, String.append_empty]
  induction spelled with
  | single condition field sign value =>
      exact read (by simp) (Condition.ofTokens_eq_ok_iff.mpr (.inl ⟨rfl, rfl⟩))
  | @cons condition field sign value gap tokens conditions others inductionHypothesis =>
      have skipped : skipBlanks (⟨.blank, " ", gap⟩ :: tokens) = skipBlanks tokens := rfl
      refine read (by simp [Token.isBlank]) ?_
      rwa [← Condition.ofTokens_skipBlanks, skipped, Condition.ofTokens_skipBlanks]

theorem exists_last (spelled : SpellsQuoted tokens conditions) :
    ∃ front last, tokens = front ++ [last] ∧ last.isBlank = false := by
  induction spelled with
  | single condition field sign value =>
      exact ⟨[⟨.quoted, condition.field, field⟩, ⟨.equals, "=", sign⟩], _, rfl, rfl⟩
  | cons condition field sign value gap others inductionHypothesis =>
      obtain ⟨front, last, rfl, notBlank⟩ := inductionHypothesis
      exact ⟨_ :: _ :: _ :: _ :: front, last, rfl, notBlank⟩

theorem skipBlanks_eq (spelled : SpellsQuoted tokens conditions) : skipBlanks tokens = tokens := by
  cases spelled with
  | single | cons => rfl

/-- No quoted text is an option. -/
theorem readOption_eq (spelled : SpellsQuoted tokens conditions) (finish : Stop) :
    readOption finish tokens = .ok (∅, tokens) := by
  cases spelled with
  | single | cons => rfl

/-- Conditions are too many tokens to lose their quotes. -/
theorem positionalValue_eq (spelled : SpellsQuoted tokens conditions) {text : String}
    (cut : tokensFrom 0 text.toList = .ok tokens) : positionalValue tokens = text := by
  have trimmed : trimBlanks tokens = tokens := by
    obtain ⟨front, last, tokens_eq, notBlank⟩ := spelled.exists_last
    have skipped : trimBlanks (front ++ [last]) = skipBlanks (front ++ [last]) :=
      trimBlanks_append_of_compact (List.cons_ne_nil _ _) (List.forall_mem_singleton.mpr notBlank)
    rw [← tokens_eq, spelled.skipBlanks_eq] at skipped
    exact skipped
  have written : positionalValue tokens = writtenText tokens := by
    unfold positionalValue
    rw [trimmed]
    cases spelled with
    | single | cons => rfl
  rw [written, writtenText, flatMap_written_of_tokensFrom cut, String.ofList_toList]

end SpellsQuoted

/-! ## The stage -/

theorem readPipeline_quotedConditions {conditions : List Condition} {tokens : List Token}
    (cut : tokensFrom 0 (quotedConditions conditions).toList = .ok tokens)
    (spelled : SpellsQuoted tokens conditions) :
    readPipeline (namedStage WhereStep.stepName (quotedConditions conditions)) =
      .ok [{ name := WhereStep.stepName, options := ∅, value := quotedConditions conditions }] := by
  obtain ⟨front, last, tokens_eq, notBlank⟩ := spelled.exists_last
  have isLast : last ∈ tokens := by simp [tokens_eq]
  have read : readOption (.endOfInput none) (skipBlanks tokens) = .ok (∅, tokens) := by
    rw [spelled.skipBlanks_eq]
    exact spelled.readOption_eq _
  have named := readPipeline_namedStage WhereStep.isWord_stepName cut spelled.unpiped read
    (.inr ⟨last, isLast, notBlank⟩)
  rwa [spelled.positionalValue_eq cut] at named

theorem WhereStep.compile_quotedConditions {conditions : List Condition} {tokens : List Token}
    (notEmpty : conditions ≠ [])
    (cut : tokensFrom 0 (quotedConditions conditions).toList = .ok tokens)
    (spelled : SpellsQuoted tokens conditions) :
    WhereStep.compile (quotedConditions conditions) ∅ =
      .ok ⟨Condition.sorted conditions⟩ := by
  have noOptions : (∅ : Fields).toList = [] := by simp
  refine WhereStep.compile_eq_ok_iff.mpr
    ⟨tokens, conditions, cut, spelled.ofTokens_eq, Condition.sorted_ne_nil_iff.mpr notEmpty, ?_⟩
  rw [noOptions]
  rfl

/-- Conditions in quotes compile whatever their fields and values are, as long as these do not end
in a backslash.  The filter keeps the events and the rows for which all of them hold. -/
theorem quoted_conditions_hold_of_what_is_kept {conditions : List Condition} {range : TimeRange}
    (plain : range.HasPlainYears) (notEmpty : conditions ≠ [])
    (quotable : ∀ condition ∈ conditions, condition.IsQuotable) :
    ∃ filter, compile .builtin ("| where " ++ quotedConditions conditions) range =
        .ok ⟨[.search { search := {}, range }, .filter filter],
          [⟨.nothing, .events⟩, ⟨.events, .events⟩]⟩ ∧
      (∀ event, filter.keepsEvent event = true ↔ ∀ condition ∈ conditions,
        event.fields[lowercase condition.field]?.getD "" = condition.value) ∧
      (∀ row, filter.keepsRow row = true ↔ ∀ condition ∈ conditions,
        row[condition.field]?.getD "" = condition.value) ∧
      ∀ batch, ((Step.filter filter).pass batch).getD {} =
        { events := batch.events.filter filter.keepsEvent,
          rows := batch.rows.filter filter.keepsRow } := by
  obtain ⟨tokens, cut, spelled⟩ := exists_spellsQuoted notEmpty quotable 0
  have searchCompiled := SearchStep.compile_bound_empty plain Search.read_empty
  refine ⟨⟨Condition.sorted conditions⟩, ?_, ?_, ?_, ?_⟩
  · exact compile_of_whereStage (readPipeline_quotedConditions cut spelled) rfl searchCompiled
      (WhereStep.compile_quotedConditions notEmpty cut spelled)
  · intro event
    simp only [WhereStep.keepsEvent, List.all_eq_true, Condition.mem_sorted,
      Condition.holdsOfEvent, beq_iff_eq]
    rfl
  · intro row
    simp only [WhereStep.keepsRow, List.all_eq_true, Condition.mem_sorted,
      Condition.holdsOfRow, beq_iff_eq]
    rfl
  · intro batch
    exact (Step.Continues.filter ⟨Condition.sorted conditions⟩).getD_pass batch

/-- Pipes, quotes, white space and equals signs in fields and values, one field twice. -/
theorem quoted_conditions_with_pipes_and_quotes_hold :
    let conditions : List Condition :=
      [⟨"a|b =c", "say \"no\" | where"⟩, ⟨"Host", ""⟩, ⟨"Host", "x\\y"⟩]
    TimeRange.HasPlainYears {} ∧ conditions ≠ [] ∧
      (∀ condition ∈ conditions, condition.IsQuotable) ∧
      ∃ filter, compile .builtin ("| where " ++ quotedConditions conditions) {} =
          .ok ⟨[.search ⟨{}, {}⟩, .filter filter], [⟨.nothing, .events⟩, ⟨.events, .events⟩]⟩ ∧
        (∀ event, filter.keepsEvent event = true ↔ ∀ condition ∈ conditions,
          event.fields[lowercase condition.field]?.getD "" = condition.value) ∧
        (∀ row, filter.keepsRow row = true ↔ ∀ condition ∈ conditions,
          row[condition.field]?.getD "" = condition.value) ∧
        ∀ batch, ((Step.filter filter).pass batch).getD {} =
          { events := batch.events.filter filter.keepsEvent,
            rows := batch.rows.filter filter.keepsRow } := by
  intro conditions
  have plain : TimeRange.HasPlainYears {} := ⟨by simp, by simp⟩
  have notEmpty : conditions ≠ [] := List.cons_ne_nil _ _
  have quotable : ∀ condition ∈ conditions, condition.IsQuotable := by
    simp only [conditions, List.forall_mem_cons]
    exact ⟨⟨by decide, by decide⟩, ⟨by decide, by decide⟩, ⟨by decide, by decide⟩, by simp⟩
  exact ⟨plain, notEmpty, quotable,
    quoted_conditions_hold_of_what_is_kept plain notEmpty quotable⟩

end LogQuery.Pipeline
