import LogQuery.Proofs.Job.TimeWindow
import LogQuery.Proofs.Pipeline.ConditionReader
import LogQuery.Proofs.Query.Stage.Writing

/-!
# The order of conditions

A where stage takes its first condition for an option, whose value is one word or quoted text; the
conditions behind it are read up to white space.  Two conditions may therefore change places as long
as the value of each is one word or quoted text.
-/

namespace LogQuery.Pipeline

open LogQuery.Query

/-- A condition as it is written: a word, an equals sign, and a value without white space or pipes
outside quotes. -/
structure WrittenCondition where
  text : String
  key : Token
  sign : Token
  value : List Token
  cut : tokensFrom 0 text.toList = .ok (key :: sign :: value)
  isWord : key.kind = .word
  isSign : sign.kind = .equals
  compact : ∀ token ∈ value, token.isBlank = false
  unpiped : ∀ token ∈ value, token.kind ≠ .pipe

namespace WrittenCondition

/-- The condition that is meant. -/
def toCondition (written : WrittenCondition) : Condition where
  field := written.key.text
  value := String.join (written.value.map (·.text))

/-- The value is one word or quoted text. -/
def IsSingle (written : WrittenCondition) : Prop :=
  ∃ value, written.value = [value] ∧ value.isValue = true

/-- What may stand directly behind the first word or quoted text of a value: nothing, or one more
condition. -/
inductive GoesOn : List Token → List Condition → Prop where
  | ends : GoesOn [] []
  | further {field sign : Token} {rest : List Token} (isField : Condition.isField field = true)
      (isSign : sign.kind = .equals) :
      GoesOn (field :: sign :: rest) [⟨field.text, String.join (rest.map (·.text))⟩]

/-- What the condition means in front of another one: no more of its value than the first word or
quoted text belongs to its field. -/
inductive ReadsInFront (written : WrittenCondition) : List Condition → Prop where
  | option {value : Token} {rest : List Token} {others : List Condition}
      (value_eq : written.value = value :: rest) (isValue : value.isValue = true)
      (goesOn : GoesOn rest others) :
      ReadsInFront written (⟨written.key.text, value.text⟩ :: others)

/-- The tokens of a condition that stands behind another one, the white space in front included. -/
def tokensBehind (written : WrittenCondition) (gap distance : Nat) : List Token :=
  ⟨.blank, " ", gap⟩ :: (written.key :: written.sign :: written.value).map (Token.shift distance)

end WrittenCondition

/-- The query for two conditions. -/
def whereQuery (first second : WrittenCondition) : String :=
  namedStage WhereStep.stepName (first.text ++ " " ++ second.text)

/-- Either both fail, or both are pipelines that differ in their filters at most, and these keep the
same events and the same rows. -/
inductive KeepAlike : Except CompileError Pipeline → Except CompileError Pipeline → Prop where
  | fail (error other : CompileError) : KeepAlike (.error error) (.error other)
  | keep {first : Step} {filter other : WhereStep} {types : List PipeTypes}
      (events : ∀ event, filter.keepsEvent event = other.keepsEvent event)
      (rows : ∀ row, filter.keepsRow row = other.keepsRow row) :
      KeepAlike (.ok ⟨[first, .filter filter], types⟩) (.ok ⟨[first, .filter other], types⟩)

/-! ## The tokens of two conditions -/

theorem WhereStep.isWord_stepName : IsWord WhereStep.stepName :=
  isWord_iff.mpr (.word rfl (by decide))

namespace WrittenCondition

variable (written : WrittenCondition) {conditions : List Condition}

theorem isBlank_key : written.key.isBlank = false :=
  Token.isBlank_eq_false_of_kind written.isWord (by decide)

theorem isField_key : Condition.isField written.key = true := by
  rw [Condition.isField, Token.isValue, written.isWord]
  rfl

theorem compact_map_shift (distance : Nat) :
    ∀ token ∈ written.value.map (Token.shift distance), token.isBlank = false := by
  simpa using written.compact

theorem kind_ne_pipe_of_mem_tokensBehind {gap distance : Nat} :
    ∀ token ∈ written.tokensBehind gap distance, token.kind ≠ .pipe := by
  have unpiped := written.unpiped
  simp only [tokensBehind, List.mem_cons, List.mem_map]
  rintro token (rfl | ⟨token, rfl | rfl | member, rfl⟩)
  · simp
  · simp [written.isWord]
  · simp [written.isSign]
  · exact unpiped token member

theorem exists_tokensFrom (first second : WrittenCondition) :
    ∃ gap distance, tokensFrom 0 (first.text ++ " " ++ second.text).toList =
      .ok (first.key :: first.sign :: (first.value ++ second.tokensBehind gap distance)) := by
  have text_eq : (first.text ++ " " ++ second.text).toList =
      first.text.toList ++ ' ' :: second.text.toList := by
    simp
  have furtherOn (distance : Nat) : tokensFrom distance second.text.toList =
      .ok ((second.key :: second.sign :: second.value).map (Token.shift distance)) := by
    rw [← tokensFrom_add second.cut distance, Nat.zero_add]
  have behind : tokensFrom (0 + byteLength first.text.toList) (' ' :: second.text.toList) =
      .ok (second.tokensBehind _ _) :=
    (ReadsTo.blank rfl).tokensFrom (furtherOn _)
  rw [text_eq, tokensFrom_append first.cut fun _ _ _ => breaksWord_blank rfl _ _, behind]
  exact ⟨_, _, rfl⟩

/-! ## What the tokens are read as -/

theorem ofTokens_eq_ok_iff :
    Condition.ofTokens (written.key :: written.sign :: written.value) = .ok conditions ↔
      conditions = [written.toCondition] := by
  rw [← List.append_nil written.value, Condition.ofTokens_cons_eq_ok_iff written.isBlank_key
    written.compact (by simp)]
  constructor
  · rintro ⟨-, -, others, nothing, rfl⟩
    obtain ⟨-, rfl⟩ | ⟨_, _, _, _, impossible, -⟩ := Condition.ofTokens_eq_ok_iff.mp nothing
    · rfl
    · cases impossible
  · rintro rfl
    exact ⟨written.isField_key, written.isSign, [],
      Condition.ofTokens_eq_ok_iff.mpr (.inl ⟨rfl, rfl⟩), rfl⟩

theorem ofTokens_tokensBehind_eq_ok_iff {gap distance : Nat} :
    Condition.ofTokens (written.tokensBehind gap distance) = .ok conditions ↔
      conditions = [written.toCondition] := by
  rw [← Condition.ofTokens_skipBlanks, tokensBehind, show skipBlanks (⟨.blank, " ", gap⟩ :: _) =
    skipBlanks ((written.key :: written.sign :: written.value).map (Token.shift distance)) from rfl,
    Condition.ofTokens_skipBlanks, Condition.ofTokens_map_shift, written.ofTokens_eq_ok_iff]

/-- What stands between an option and a condition is read as one more condition at most. -/
theorem ofTokens_append_tokensBehind_eq_ok_iff {rest : List Token} {gap distance : Nat}
    (compact : ∀ token ∈ rest, token.isBlank = false) :
    Condition.ofTokens (rest ++ written.tokensBehind gap distance) = .ok conditions ↔
      ∃ others, GoesOn rest others ∧ conditions = others ++ [written.toCondition] := by
  match rest with
  | [] =>
      rw [List.nil_append, written.ofTokens_tokensBehind_eq_ok_iff]
      constructor
      · rintro rfl
        exact ⟨[], .ends, rfl⟩
      · rintro ⟨others, ⟨⟩, rfl⟩
        rfl
  | [field] =>
      rw [Condition.ofTokens_eq_ok_iff, List.singleton_append,
        skipBlanks_of_not_isBlank (compact field List.mem_cons_self)]
      constructor
      · rintro (⟨impossible, -⟩ | ⟨_, _, _, _, same, -, isSign, -⟩)
        · cases impossible
        · cases same
          cases isSign
      · rintro ⟨others, ⟨⟩, -⟩
  | field :: sign :: rest =>
      have compactRest : ∀ token ∈ rest, token.isBlank = false := fun token member =>
        compact token (List.mem_cons_of_mem field (List.mem_cons_of_mem sign member))
      rw [List.cons_append, List.cons_append, Condition.ofTokens_cons_eq_ok_iff
        (compact field List.mem_cons_self) compactRest (by simp [tokensBehind, Token.isBlank])]
      constructor
      · rintro ⟨isField, isSign, others, read, rfl⟩
        obtain rfl := written.ofTokens_tokensBehind_eq_ok_iff.mp read
        exact ⟨_, .further isField isSign, rfl⟩
      · rintro ⟨others, goesOn, rfl⟩
        cases goesOn with
        | further isField isSign =>
            exact ⟨isField, isSign, _, written.ofTokens_tokensBehind_eq_ok_iff.mpr rfl, rfl⟩

theorem IsSingle.readsInFront_iff {written : WrittenCondition} (single : written.IsSingle) :
    written.ReadsInFront conditions ↔ conditions = [written.toCondition] := by
  obtain ⟨value, value_eq, isValue⟩ := single
  have condition_eq : written.toCondition = ⟨written.key.text, value.text⟩ := by
    rw [toCondition, value_eq, List.map_singleton, String.join_cons, String.join_nil,
      String.append_empty]
  rw [condition_eq]
  constructor
  · intro reads
    cases reads with
    | option same _ goesOn =>
        obtain ⟨rfl, rfl⟩ := List.cons.inj (value_eq.symm.trans same)
        cases goesOn
        rfl
  · rintro rfl
    exact .option value_eq isValue .ends

end WrittenCondition

/-! ## The stage of two conditions -/

section

variable {first second : WrittenCondition} {range : TimeRange} {gap distance : Nat}

/-- The where stage for two conditions is read if a value follows the first equals sign. -/
theorem readPipeline_whereQuery_eq_ok_iff {stages : List Stage}
    (cut : tokensFrom 0 (first.text ++ " " ++ second.text).toList =
      .ok (first.key :: first.sign :: (first.value ++ second.tokensBehind gap distance))) :
    readPipeline (whereQuery first second) = .ok stages ↔
      ∃ value left, skipBlanks (first.value ++ second.tokensBehind gap distance) = value :: left ∧
        value.isValue = true ∧
        stages = [{ name := WhereStep.stepName,
                    options := (∅ : Fields).insert first.key.text value.text,
                    value := positionalValue left }] := by
  have unpiped : ∀ token ∈ first.key :: first.sign ::
      (first.value ++ second.tokensBehind gap distance), token.kind ≠ .pipe := by
    rw [List.forall_mem_cons, List.forall_mem_cons, List.forall_mem_append]
    exact ⟨by simp [first.isWord], by simp [first.isSign], first.unpiped,
      second.kind_ne_pipe_of_mem_tokensBehind⟩
  rw [whereQuery,
    readPipeline_namedStage_eq_ok_iff WhereStep.isWord_stepName cut unpiped (.endOfInput none),
    skipBlanks_of_not_isBlank first.isBlank_key]
  constructor
  · rintro ⟨options, left, read, -, rfl⟩
    obtain ⟨value, skipped, isValue, rfl⟩ :=
      (readOption_key_sign_eq_ok_iff first.isWord first.isSign).mp read
    exact ⟨value, left, skipped, isValue, rfl⟩
  · rintro ⟨value, left, skipped, isValue, rfl⟩
    exact ⟨_, left, (readOption_key_sign_eq_ok_iff first.isWord first.isSign).mpr
      ⟨value, skipped, isValue, rfl⟩,
      .inl (Std.ExtTreeMap.isEmpty_eq_false_iff.mpr Std.ExtTreeMap.insert_ne_empty), rfl⟩

/-- Where the first condition has no value, the option takes the field of the second one for it, and
an equals sign is left. -/
theorem compile_ne_ok_of_no_value {value : Token} {left : List Token} {step : WhereStep}
    (cut : tokensFrom 0 (first.text ++ " " ++ second.text).toList =
      .ok (first.key :: first.sign :: second.tokensBehind gap distance))
    (skipped : skipBlanks (second.tokensBehind gap distance) = value :: left) (key text : String) :
    WhereStep.compile (positionalValue left) ((∅ : Fields).insert key text) ≠ .ok step := by
  intro compiled
  have run : [] ++ second.sign.shift distance :: second.value.map (Token.shift distance) <:+
      first.key :: first.sign :: second.tokensBehind gap distance :=
    ⟨[first.key, first.sign, ⟨.blank, " ", gap⟩, second.key.shift distance], rfl⟩
  have keyNotBlank : (second.key.shift distance).isBlank = false := second.isBlank_key
  have keyLeft : skipBlanks (second.tokensBehind gap distance) =
      second.key.shift distance ::
        second.sign.shift distance :: second.value.map (Token.shift distance) :=
    skipBlanks_of_not_isBlank keyNotBlank _
  obtain ⟨-, rfl⟩ := List.cons.inj (keyLeft.symm.trans skipped)
  obtain ⟨conditions, read, -⟩ := (WhereStep.compile_positionalValue_eq_ok_iff cut run
    second.isSign (second.compact_map_shift distance)).mp compiled
  have isSign : (second.sign.shift distance).kind = .equals := second.isSign
  exact Condition.ofTokens_sign_ne_ok isSign read

/-- Otherwise the conditions are those behind the value of the option. -/
theorem compile_rest_eq_ok_iff {value : Token} {rest : List Token} {step : WhereStep}
    (cut : tokensFrom 0 (first.text ++ " " ++ second.text).toList =
      .ok (first.key :: first.sign :: (first.value ++ second.tokensBehind gap distance)))
    (value_eq : first.value = value :: rest) (key text : String) :
    WhereStep.compile (positionalValue (rest ++ second.tokensBehind gap distance))
        ((∅ : Fields).insert key text) = .ok step ↔
      ∃ others, WrittenCondition.GoesOn rest others ∧
        step = ⟨Condition.sorted (⟨key, text⟩ :: (others ++ [second.toCondition]))⟩ := by
  have compactRest : ∀ token ∈ rest, token.isBlank = false := fun token member =>
    first.compact token (value_eq ▸ List.mem_cons_of_mem value member)
  let front := rest ++ [⟨.blank, " ", gap⟩, second.key.shift distance]
  have left_eq : rest ++ second.tokensBehind gap distance =
      front ++ second.sign.shift distance :: second.value.map (Token.shift distance) := by
    simp [front, WrittenCondition.tokensBehind]
  have run : front ++ second.sign.shift distance :: second.value.map (Token.shift distance) <:+
      first.key :: first.sign :: (first.value ++ second.tokensBehind gap distance) := by
    rw [← left_eq, value_eq]
    exact ⟨[first.key, first.sign, value], rfl⟩
  rw [left_eq, WhereStep.compile_positionalValue_eq_ok_iff cut run second.isSign
    (second.compact_map_shift distance), ← left_eq]
  simp only [second.ofTokens_append_tokensBehind_eq_ok_iff compactRest]
  constructor
  · rintro ⟨conditions, ⟨others, goesOn, rfl⟩, rfl⟩
    exact ⟨others, goesOn, rfl⟩
  · rintro ⟨others, goesOn, rfl⟩
    exact ⟨_, ⟨others, goesOn, rfl⟩, rfl⟩

/-- What the where stage for two conditions compiles to. -/
theorem exists_whereStage_iff {step : WhereStep} :
    (∃ stage, readPipeline (whereQuery first second) = .ok [stage] ∧
        stage.name = WhereStep.stepName ∧ WhereStep.compile stage.value stage.options = .ok step) ↔
      ∃ conditions, first.ReadsInFront conditions ∧
        step = ⟨Condition.sorted (conditions ++ [second.toCondition])⟩ := by
  obtain ⟨gap, distance, cut⟩ := first.exists_tokensFrom second
  constructor
  · rintro ⟨stage, read, -, compiled⟩
    obtain ⟨value, left, skipped, isValue, made⟩ := (readPipeline_whereQuery_eq_ok_iff cut).mp read
    obtain rfl := List.singleton_injective made
    cases value_eq : first.value with
    | nil =>
        rw [value_eq, List.nil_append] at cut skipped
        exact absurd compiled (compile_ne_ok_of_no_value cut skipped _ _)
    | cons value rest =>
        have notBlank := first.compact value (value_eq ▸ List.mem_cons_self)
        rw [value_eq, List.cons_append, skipBlanks_of_not_isBlank notBlank] at skipped
        obtain ⟨rfl, rfl⟩ := List.cons.inj skipped
        obtain ⟨others, goesOn, rfl⟩ := (compile_rest_eq_ok_iff cut value_eq _ _).mp compiled
        exact ⟨_, .option value_eq isValue goesOn, rfl⟩
  · rintro ⟨conditions, reads, rfl⟩
    cases reads with
    | @option value rest others value_eq isValue goesOn =>
        have notBlank := first.compact value (value_eq ▸ List.mem_cons_self)
        have skipped : skipBlanks (first.value ++ second.tokensBehind gap distance) =
            value :: (rest ++ second.tokensBehind gap distance) := by
          rw [value_eq, List.cons_append, skipBlanks_of_not_isBlank notBlank]
        have read := (readPipeline_whereQuery_eq_ok_iff cut).mpr ⟨value, _, skipped, isValue, rfl⟩
        exact ⟨_, read, rfl, (compile_rest_eq_ok_iff cut value_eq _ _).mpr ⟨others, goesOn, rfl⟩⟩

/-- A where stage by itself has the search for everything in front. -/
theorem compile_of_whereStage {query : String} {stage : Stage} {search : SearchStep}
    {filter : WhereStep} (read : readPipeline query = .ok [stage])
    (name_eq : stage.name = WhereStep.stepName)
    (searchCompiled : SearchStep.compile "" (SearchStep.bound range ∅) = .ok search)
    (filterCompiled : WhereStep.compile stage.value stage.options = .ok filter) :
    compile .builtin query range = .ok ⟨[.search search, .filter filter],
      [⟨.nothing, .events⟩, ⟨.events, .events⟩]⟩ := by
  have notSearch : stage.name ≠ searchName := by
    rw [name_eq]
    decide
  have compiles : StepRegistry.builtin.compileStage stage = .ok (.filter filter) :=
    StepRegistry.compileStage_builtin_iff.mpr (.filter name_eq filterCompiled)
  have generated : StepRegistry.builtin.withGenerator range [.filter filter] =
      .ok [.search search, .filter filter] :=
    withGenerator_builtin_eq_ok_iff.mpr (.inr ⟨rfl, search, searchCompiled, rfl⟩)
  refine compile_eq_ok_iff.mpr ⟨[stage], [.filter filter], [.search search, .filter filter],
    [⟨.nothing, .events⟩, ⟨.events, .events⟩], read, ?_, generated, rfl, rfl⟩
  rw [boundFirst_cons, if_neg notSearch]
  exact .cons compiles .nil

/-- Two conditions compile if the search for everything does, and if the first one can be read in
front of another one. -/
theorem compile_whereQuery_eq_ok_iff {pipeline : Pipeline} :
    compile .builtin (whereQuery first second) range = .ok pipeline ↔
      ∃ search conditions, SearchStep.compile "" (SearchStep.bound range ∅) = .ok search ∧
        first.ReadsInFront conditions ∧
        pipeline = ⟨[.search search,
            .filter ⟨Condition.sorted (conditions ++ [second.toCondition])⟩],
          [⟨.nothing, .events⟩, ⟨.events, .events⟩]⟩ := by
  constructor
  · intro compiled
    have notSearch : WhereStep.stepName ≠ searchName := by decide
    obtain ⟨stages, made, steps, types, read, compiles, generated, resolved, rfl⟩ :=
      compile_eq_ok_iff.mp compiled
    obtain ⟨gap, distance, cut⟩ := first.exists_tokensFrom second
    obtain ⟨value, left, -, -, rfl⟩ := (readPipeline_whereQuery_eq_ok_iff cut).mp read
    rw [boundFirst_cons, if_neg notSearch] at compiles
    obtain ⟨step, others, stageCompiles, othersCompile, rfl⟩ :=
      List.forall₂_cons_left_iff.mp compiles
    cases othersCompile
    cases StepRegistry.compileStage_builtin_iff.mp stageCompiles with
    | filter _ filterCompiled =>
        obtain ⟨conditions, reads, rfl⟩ :=
          exists_whereStage_iff.mp ⟨_, read, rfl, filterCompiled⟩
        rcases withGenerator_builtin_eq_ok_iff.mp generated with
          ⟨impossible, -⟩ | ⟨-, search, searchCompiled, rfl⟩
        · cases impossible
        · obtain rfl := Except.ok.inj resolved
          exact ⟨search, conditions, searchCompiled, reads, rfl⟩
    | search name_eq | rex name_eq | table name_eq | surrounding name_eq =>
        change WhereStep.stepName = _ at name_eq
        exact absurd name_eq (by decide)
  · rintro ⟨search, conditions, searchCompiled, reads, rfl⟩
    obtain ⟨stage, read, name_eq, filterCompiled⟩ :=
      exists_whereStage_iff.mpr ⟨conditions, reads, rfl⟩
    exact compile_of_whereStage read name_eq searchCompiled filterCompiled

end

/-- Two conditions behind the name of a where stage.  They compile if the first one can be read as
an option that nothing but one more condition follows, and then the filter has these conditions and
the second one as it is written, in order.  If the value of both is one word or quoted text, or if neither can
stand in front, the conditions may change places: either no order compiles, or both do, and the
filters keep the same events and the same rows. -/
theorem conditions_may_change_places (first second : WrittenCondition) (range : TimeRange) :
    (∀ pipeline, compile .builtin (whereQuery first second) range = .ok pipeline ↔
      ∃ search conditions, SearchStep.compile "" (SearchStep.bound range ∅) = .ok search ∧
        first.ReadsInFront conditions ∧
        pipeline = ⟨[.search search,
            .filter ⟨Condition.sorted (conditions ++ [second.toCondition])⟩],
          [⟨.nothing, .events⟩, ⟨.events, .events⟩]⟩) ∧
    (first.IsSingle ∧ second.IsSingle ∨
        (∀ conditions, ¬first.ReadsInFront conditions ∧ ¬second.ReadsInFront conditions) →
      KeepAlike (compile .builtin (whereQuery first second) range)
        (compile .builtin (whereQuery second first) range)) := by
  refine ⟨fun pipeline => compile_whereQuery_eq_ok_iff, ?_⟩
  have bothFail (failing : ∀ search conditions,
      SearchStep.compile "" (SearchStep.bound range ∅) = .ok search →
        ¬first.ReadsInFront conditions ∧ ¬second.ReadsInFront conditions) :
      KeepAlike (compile .builtin (whereQuery first second) range)
        (compile .builtin (whereQuery second first) range) := by
    cases outcome : compile .builtin (whereQuery first second) range with
    | ok pipeline =>
        obtain ⟨search, conditions, searchCompiled, reads, -⟩ :=
          compile_whereQuery_eq_ok_iff.mp outcome
        exact absurd reads (failing search conditions searchCompiled).1
    | error error =>
        cases swapped : compile .builtin (whereQuery second first) range with
        | ok pipeline =>
            obtain ⟨search, conditions, searchCompiled, reads, -⟩ :=
              compile_whereQuery_eq_ok_iff.mp swapped
            exact absurd reads (failing search conditions searchCompiled).2
        | error other => exact .fail error other
  rintro (⟨firstSingle, secondSingle⟩ | neither)
  · have sorted_eq : Condition.sorted ([first.toCondition] ++ [second.toCondition]) =
        Condition.sorted ([second.toCondition] ++ [first.toCondition]) :=
      Condition.sorted_eq_of_perm List.perm_append_comm
    cases searchCompiled : SearchStep.compile "" (SearchStep.bound range ∅) with
    | error error =>
        refine bothFail fun search conditions impossible => ?_
        rw [searchCompiled] at impossible
        cases impossible
    | ok search =>
        rw [compile_whereQuery_eq_ok_iff.mpr
            ⟨search, _, searchCompiled, firstSingle.readsInFront_iff.mpr rfl, rfl⟩,
          compile_whereQuery_eq_ok_iff.mpr
            ⟨search, _, searchCompiled, secondSingle.readsInFront_iff.mpr rfl, rfl⟩,
          sorted_eq]
        exact .keep (fun _ => rfl) fun _ => rfl
  · exact bothFail fun search conditions _ => neither conditions

/-- A word and a quoted text may stand in either order. -/
theorem word_and_quoted_text_may_change_places :
    KeepAlike (compile .builtin "| where a=1 b=\"2 3\"" {})
      (compile .builtin "| where b=\"2 3\" a=1" {}) := by
  let first : WrittenCondition :=
    { text := "a=1", key := ⟨.word, "a", 0⟩, sign := ⟨.equals, "=", 1⟩, value := [⟨.word, "1", 2⟩]
      cut := by cbv, isWord := rfl, isSign := rfl, compact := by decide, unpiped := by decide }
  let second : WrittenCondition :=
    { text := "b=\"2 3\"", key := ⟨.word, "b", 0⟩, sign := ⟨.equals, "=", 1⟩
      value := [⟨.quoted, "2 3", 2⟩]
      cut := by cbv, isWord := rfl, isSign := rfl, compact := by decide, unpiped := by decide }
  have places := (conditions_may_change_places first second {}).2
    (.inl ⟨⟨_, rfl, rfl⟩, ⟨_, rfl, rfl⟩⟩)
  have query_eq : whereQuery first second = "| where a=1 b=\"2 3\"" := by cbv
  have swapped_eq : whereQuery second first = "| where b=\"2 3\" a=1" := by cbv
  rwa [query_eq, swapped_eq] at places

/-- A value with a comma in it compiles behind another condition but not in front of it. -/
theorem value_with_a_comma_may_not_change_places :
    ¬KeepAlike (compile .builtin "| where a=1,2 b=3" {})
      (compile .builtin "| where b=3 a=1,2" {}) := by
  have failing : compile .builtin "| where a=1,2 b=3" {} = .error (.step (.noCondition ",")) := by
    cbv
  have compiling : ∃ pipeline, compile .builtin "| where b=3 a=1,2" {} = .ok pipeline := ⟨_, by cbv⟩
  obtain ⟨pipeline, compiled⟩ := compiling
  rw [failing, compiled]
  rintro ⟨⟩

end LogQuery.Pipeline
