import LogQuery.Pipeline.Step.Where
import LogQuery.Proofs.Query.Stage.Parts

/-!
# Reading conditions

The where step reads conditions from the tokens of its value: a field, an equals sign, and whatever
follows up to white space.  Where the tokens stand makes no difference, so the value of a stage is
read as the tokens of the query that it is made of.  The step holds its conditions in order, and so
in whichever order they are read, it is the same step.
-/

namespace LogQuery.Pipeline

open LogQuery.Query

namespace Condition

variable {tokens : List Token} {conditions : List Condition}

theorem ofTokens_eq_ok_iff :
    ofTokens tokens = .ok conditions ↔
      skipBlanks tokens = [] ∧ conditions = [] ∨
        ∃ field sign rest others, skipBlanks tokens = field :: sign :: rest ∧
          isField field = true ∧ sign.kind = .equals ∧
          ofTokens (rest.dropWhile (!·.isBlank)) = .ok others ∧
          conditions =
            ⟨field.text, String.join ((rest.takeWhile (!·.isBlank)).map (·.text))⟩ :: others := by
  rw [ofTokens]
  split
  · next skipped =>
      simp only [skipped, Except.ok.injEq, reduceCtorEq, true_and, false_and, exists_false,
        or_false]
      exact eq_comm
  · next field rest skipped =>
      cases rest with
      | nil => simp [skipped]
      | cons sign rest =>
          simp only [skipped, List.cons.injEq, reduceCtorEq, false_and, false_or]
          split
          · next begins =>
              rw [Bool.and_eq_true, beq_iff_eq] at begins
              simp only [bind_eq_ok, Except.ok.injEq]
              constructor
              · rintro ⟨others, read, rfl⟩
                exact ⟨field, sign, rest, others, ⟨rfl, rfl, rfl⟩, begins.1, begins.2, read, rfl⟩
              · rintro ⟨_, _, _, others, ⟨rfl, rfl, rfl⟩, -, -, read, rfl⟩
                exact ⟨others, read, rfl⟩
          · next plain =>
              rw [Bool.and_eq_true, beq_iff_eq] at plain
              simp only [reduceCtorEq, false_iff]
              rintro ⟨_, _, _, _, ⟨rfl, rfl, rfl⟩, isField, isSign, -, -⟩
              exact plain ⟨isField, isSign⟩

theorem ofTokens_skipBlanks :
    ofTokens (skipBlanks tokens) = .ok conditions ↔ ofTokens tokens = .ok conditions := by
  rw [ofTokens_eq_ok_iff, ofTokens_eq_ok_iff, skipBlanks_skipBlanks]

/-- Conditions are read alike further on. -/
theorem ofTokens_map_shift (distance : Nat) :
    ofTokens (tokens.map (Token.shift distance)) = .ok conditions ↔
      ofTokens tokens = .ok conditions := by
  induction conditions generalizing tokens with
  | nil =>
      rw [ofTokens_eq_ok_iff, ofTokens_eq_ok_iff, skipBlanks_map_shift]
      simp
  | cons condition conditions inductionHypothesis =>
      have notBlank_shift : (!Token.isBlank ·) ∘ Token.shift distance = (!Token.isBlank ·) := rfl
      rw [ofTokens_eq_ok_iff, ofTokens_eq_ok_iff, skipBlanks_map_shift]
      constructor
      · rintro (⟨-, impossible⟩ | ⟨_, _, _, others, skipped, isField, isSign, read, made⟩)
        · cases impossible
        · obtain ⟨field, tail, skipped', rfl, tail_eq⟩ := List.map_eq_cons_iff.mp skipped
          obtain ⟨sign, rest, rfl, rfl, rfl⟩ := List.map_eq_cons_iff.mp tail_eq
          obtain ⟨condition_eq, rfl⟩ := List.cons.inj made
          rw [List.dropWhile_map, notBlank_shift, inductionHypothesis] at read
          refine .inr ⟨field, sign, rest, conditions, skipped', isField, isSign, read, ?_⟩
          rw [condition_eq, List.takeWhile_map, notBlank_shift, List.map_map]
          rfl
      · rintro (⟨-, impossible⟩ | ⟨field, sign, rest, others, skipped, isField, isSign, read, made⟩)
        · cases impossible
        · obtain ⟨condition_eq, rfl⟩ := List.cons.inj made
          have skippedShifted : (skipBlanks tokens).map (Token.shift distance) =
              field.shift distance :: sign.shift distance :: rest.map (Token.shift distance) := by
            rw [skipped, List.map_cons, List.map_cons]
          refine .inr ⟨_, _, _, conditions, skippedShifted, isField, isSign, ?_, ?_⟩
          · rw [List.dropWhile_map, notBlank_shift, inductionHypothesis]
            exact read
          · rw [condition_eq, List.takeWhile_map, notBlank_shift, List.map_map]
            rfl

/-- No condition begins with an equals sign. -/
theorem ofTokens_sign_ne_ok {sign : Token} (isSign : sign.kind = .equals) :
    ofTokens (sign :: tokens) ≠ .ok conditions := by
  intro read
  have notBlank := Token.isBlank_eq_false_of_kind isSign (by decide)
  rw [ofTokens_eq_ok_iff, skipBlanks_of_not_isBlank notBlank] at read
  obtain ⟨impossible, -⟩ | ⟨_, _, _, _, same, isField, -⟩ := read
  · cases impossible
  · cases same
    simp [Condition.isField, Token.isValue, isSign, TokenKind.isValue, TokenKind.isKeyword]
      at isField

/-- A value ends where the tokens end or at white space. -/
theorem ofTokens_cons_eq_ok_iff {field sign : Token} {value behind : List Token}
    (notBlank : field.isBlank = false) (compact : ∀ token ∈ value, token.isBlank = false)
    (ends : ∀ token ∈ behind.head?, token.isBlank = true) :
    ofTokens (field :: sign :: (value ++ behind)) = .ok conditions ↔
      isField field = true ∧ sign.kind = .equals ∧ ∃ others, ofTokens behind = .ok others ∧
        conditions = ⟨field.text, String.join (value.map (·.text))⟩ :: others := by
  have goesOn : ∀ token ∈ value, (!token.isBlank) = true := fun token member => by
    rw [compact token member, Bool.not_false]
  have taken : (value ++ behind).takeWhile (!·.isBlank) = value := by
    rw [List.takeWhile_append_of_pos goesOn]
    cases behind with
    | nil => exact List.append_nil value
    | cons blank behind => simp [ends blank rfl]
  have left : (value ++ behind).dropWhile (!·.isBlank) = behind := by
    rw [List.dropWhile_append_of_pos goesOn]
    cases behind with
    | nil => rfl
    | cons blank behind => simp [ends blank rfl]
  rw [ofTokens_eq_ok_iff, skipBlanks_of_not_isBlank notBlank]
  simp only [reduceCtorEq, false_and, false_or, List.cons.injEq]
  constructor
  · rintro ⟨_, _, _, others, ⟨rfl, rfl, rfl⟩, isField, isSign, read, rfl⟩
    rw [left] at read
    exact ⟨isField, isSign, others, read, by rw [taken]⟩
  · rintro ⟨isField, isSign, others, read, rfl⟩
    exact ⟨field, sign, _, others, ⟨rfl, rfl, rfl⟩, isField, isSign, by rwa [left], by rw [taken]⟩

end Condition

/-! ## Conditions in order -/

namespace Condition

variable {conditions others : List Condition}

theorem mayPrecede_iff {first second : Condition} :
    first.mayPrecede second = true ↔
      first.field < second.field ∨ first.field = second.field ∧ first.value ≤ second.value := by
  unfold mayPrecede
  split
  · next same =>
      simp [same]
  · next different =>
      simp only [decide_eq_true_eq, different, false_and, or_false]
      exact ⟨fun before => lt_of_le_of_ne before different, le_of_lt⟩

theorem mayPrecede_trans (first second third : Condition) (forward : first.mayPrecede second = true)
    (further : second.mayPrecede third = true) : first.mayPrecede third = true := by
  rw [mayPrecede_iff] at forward further ⊢
  rcases forward with forward | ⟨sameField, forward⟩
  · rcases further with further | ⟨sameField, -⟩
    · exact .inl (lt_trans forward further)
    · exact .inl (sameField ▸ forward)
  · rcases further with further | ⟨sameToo, further⟩
    · exact .inl (sameField ▸ further)
    · exact .inr ⟨sameField.trans sameToo, String.le_trans forward further⟩

theorem mayPrecede_total (first second : Condition) :
    (first.mayPrecede second || second.mayPrecede first) = true := by
  rw [Bool.or_eq_true, mayPrecede_iff, mayPrecede_iff]
  rcases lt_trichotomy first.field second.field with before | sameField | behind
  · exact .inl (.inl before)
  · exact (String.le_total first.value second.value).imp (fun before => .inr ⟨sameField, before⟩)
      fun behind => .inr ⟨sameField.symm, behind⟩
  · exact .inr (.inl behind)

theorem eq_of_mayPrecede {first second : Condition} (forward : first.mayPrecede second = true)
    (backward : second.mayPrecede first = true) : first = second := by
  rw [mayPrecede_iff] at forward backward
  rcases forward with forward | ⟨sameField, forward⟩
  · rcases backward with backward | ⟨sameField, -⟩
    · exact absurd backward (lt_asymm forward)
    · exact absurd sameField.symm (ne_of_lt forward)
  · rcases backward with backward | ⟨-, backward⟩
    · exact absurd sameField.symm (ne_of_lt backward)
    · cases first
      cases second
      exact congr (congrArg Condition.mk sameField) (String.le_antisymm forward backward)

theorem perm_sorted (conditions : List Condition) : (sorted conditions).Perm conditions :=
  List.mergeSort_perm conditions mayPrecede

theorem pairwise_sorted (conditions : List Condition) :
    (sorted conditions).Pairwise (·.mayPrecede · = true) :=
  List.pairwise_mergeSort mayPrecede_trans mayPrecede_total conditions

@[simp] theorem mem_sorted {condition : Condition} :
    condition ∈ sorted conditions ↔ condition ∈ conditions :=
  (perm_sorted conditions).mem_iff

theorem sorted_ne_nil_iff : sorted conditions ≠ [] ↔ conditions ≠ [] :=
  not_congr ⟨fun empty => (empty ▸ perm_sorted conditions).symm.eq_nil, fun empty => by
    rw [empty, sorted, List.mergeSort_nil]⟩

/-- Conditions have one order only. -/
theorem sorted_eq_of_perm (perm : conditions.Perm others) : sorted conditions = sorted others :=
  List.Perm.eq_of_pairwise (fun _ _ _ _ => eq_of_mayPrecede) (pairwise_sorted conditions)
    (pairwise_sorted others)
    ((perm_sorted conditions).trans (perm.trans (perm_sorted others).symm))

end Condition

/-! ## The step -/

theorem WhereStep.compile_eq_ok_iff {value : String} {options : Fields} {step : WhereStep} :
    WhereStep.compile value options = .ok step ↔
      ∃ tokens conditions, tokensFrom 0 value.toList = .ok tokens ∧
        Condition.ofTokens tokens = .ok conditions ∧ step.conditions ≠ [] ∧
        step.conditions = Condition.sorted
          (options.toList.map (fun (field, value) => ⟨field, value⟩) ++ conditions) := by
  unfold WhereStep.compile
  simp only [bind_eq_ok, mapError_eq_ok_iff]
  constructor
  · rintro ⟨marked, tokenized, conditions, read, made⟩
    obtain ⟨tokens, cut, rfl⟩ := tokenize_eq_ok_iff.mp tokenized
    rw [beforeEnd_append_marker cut _ rfl] at read
    refine ⟨tokens, conditions, cut, read, ?_⟩
    split at made
    · cases made
    · next notEmpty =>
        obtain rfl := Except.ok.inj made
        exact ⟨Condition.sorted_ne_nil_iff.mpr notEmpty, rfl⟩
  · rintro ⟨tokens, conditions, cut, read, notEmpty, conditions_eq⟩
    refine ⟨_, tokenize_eq_ok_iff.mpr ⟨tokens, cut, rfl⟩, conditions, ?_, ?_⟩
    · rwa [beforeEnd_append_marker cut _ rfl]
    · rw [conditions_eq, Condition.sorted_ne_nil_iff] at notEmpty
      split
      · next empty => exact absurd empty notEmpty
      · exact congrArg Except.ok (congrArg WhereStep.mk conditions_eq.symm)

/-- Behind an option, the where stage reads conditions from its tokens as they stand in the query,
if there is an equals sign among them and no white space at the end. -/
theorem WhereStep.compile_positionalValue_eq_ok_iff {text key value : String}
    {tokens front back : List Token} {sign : Token} {step : WhereStep}
    (cut : tokensFrom 0 text.toList = .ok tokens) (run : front ++ sign :: back <:+ tokens)
    (isSign : sign.kind = .equals) (compact : ∀ token ∈ back, token.isBlank = false) :
    WhereStep.compile (positionalValue (front ++ sign :: back)) ((∅ : Fields).insert key value) =
        .ok step ↔
      ∃ conditions, Condition.ofTokens (front ++ sign :: back) = .ok conditions ∧
        step = ⟨Condition.sorted (⟨key, value⟩ :: conditions)⟩ := by
  have signNotBlank := Token.isBlank_eq_false_of_kind isSign (by decide)
  have trimmed : trimBlanks (front ++ sign :: back) = skipBlanks (front ++ sign :: back) :=
    trimBlanks_append_of_compact (List.cons_ne_nil sign back)
      (List.forall_mem_cons.mpr ⟨signNotBlank, compact⟩)
  have signLeft : sign ∈ trimBlanks (front ++ sign :: back) := by
    rw [trimmed]
    exact mem_skipBlanks (List.mem_append_right front List.mem_cons_self) signNotBlank
  have trimmedRun : trimBlanks (front ++ sign :: back) <:+: tokens := by
    rw [trimmed]
    exact ((List.dropWhile_suffix _).trans run).isInfix
  obtain ⟨others, distance, again, shifted⟩ := exists_tokensFrom_positionalValue cut trimmedRun
    fun token single => by
      rw [single, List.mem_singleton] at signLeft
      rw [← signLeft, Token.isValue, isSign]
      rfl
  have read_iff (conditions : List Condition) : Condition.ofTokens others = .ok conditions ↔
      Condition.ofTokens (front ++ sign :: back) = .ok conditions := by
    rw [← Condition.ofTokens_map_shift distance, shifted, trimmed, Condition.ofTokens_skipBlanks]
  rw [WhereStep.compile_eq_ok_iff]
  constructor
  · rintro ⟨others', conditions, again', read, -, conditions_eq⟩
    obtain rfl := Except.ok.inj (again.symm.trans again')
    exact ⟨conditions, (read_iff conditions).mp read, congrArg WhereStep.mk conditions_eq⟩
  · rintro ⟨conditions, read, rfl⟩
    exact ⟨others, conditions, again, (read_iff conditions).mpr read,
      Condition.sorted_ne_nil_iff.mpr (List.cons_ne_nil _ _), rfl⟩

end LogQuery.Pipeline
