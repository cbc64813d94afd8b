import LogQuery.Proofs.Pipeline.Builtin
import LogQuery.Proofs.Pipeline.Emission
import LogQuery.Proofs.Pipeline.SearchBounds
import LogQuery.Proofs.Query.Stage.Reader
import Mathlib

/-!
# Naming the search stage

The name of a search stage may be left out at the front of a query.  Both forms of a query make the
same pipeline, unless what stands behind the name is an option at its front or a quoted text by
itself: these mean something else there than in a search.
-/

namespace LogQuery.Pipeline

open LogQuery.Config LogQuery.Extraction LogQuery.Query LogQuery.Time

/-- The pipeline of a search. -/
def ofSearch (step : SearchStep) : Pipeline where
  steps := [.search step]
  types := [⟨.nothing, .events⟩]

variable {query : String} {range : TimeRange}

/-- A query of one search stage makes the pipeline of that search. -/
theorem compile_of_readPipeline {stage : Stage} (read : readPipeline query = .ok [stage])
    (name_eq : stage.name = searchName) :
    compile .builtin query range =
      (SearchStep.compile stage.value (SearchStep.bound range stage.options)).map ofSearch := by
  have compileStage_eq := StepRegistry.compileStage_builtin_search
    { stage with options := SearchStep.bound range stage.options } name_eq
  unfold compile
  rw [read]
  dsimp only [Except.mapError, bind, Except.bind]
  rw [boundFirst, if_pos name_eq, List.mapM_cons, compileStage_eq]
  cases SearchStep.compile stage.value (SearchStep.bound range stage.options) with
  | error error => rfl
  | ok step => rfl

theorem compile_of_readPipeline_search {value : String}
    (read : readPipeline query = .ok [Stage.search value]) :
    compile .builtin query range =
      (SearchStep.compile value (SearchStep.bound range ∅)).map ofSearch := by
  rw [compile_of_readPipeline read rfl]
  rfl

/-- What becomes of a search text without pipes when the search stage is named.  The text by itself
compiles to its search in the time range.  Behind the name it does so too, unless it begins with an
option or is a quoted text by itself: the option is taken out of the text, and is without effect if
it is no time bound, and a quoted text loses its quotes before it is read as a search. -/
theorem explicit_search_compiles_like_its_text {text : String} {tokens : List Token}
    {search : Search} (cut : tokenize text = .ok tokens) (read : Search.read text = .ok search)
    (unpiped : ∀ token ∈ beforeEnd tokens, token.kind ≠ .pipe)
    (notBlank : ∃ token ∈ beforeEnd tokens, token.isBlank = false)
    (plain : range.HasPlainYears) :
    compile .builtin text range = .ok (ofSearch { search, range }) ∧
      ((∀ key value left, ¬BeginsWithOption (beforeEnd tokens) key value left) →
        (∀ quoted, ¬IsQuotation (beforeEnd tokens) quoted) →
          compile .builtin (explicitSearch text) range = .ok (ofSearch { search, range })) ∧
      (∀ quoted, IsQuotation (beforeEnd tokens) quoted →
        compile .builtin (explicitSearch text) range =
          (SearchStep.compile quoted.text (SearchStep.bound range ∅)).map ofSearch) ∧
      ∀ key value left, BeginsWithOption (beforeEnd tokens) key value left →
        compile .builtin (explicitSearch text) range =
          (SearchStep.compile (positionalValue left)
            (SearchStep.bound range ((∅ : Fields).insert key.text value.text))).map ofSearch ∧
        (key.text ≠ SearchStep.startOption → key.text ≠ SearchStep.stopOption →
          compile .builtin (explicitSearch text) range =
            (SearchStep.compile (positionalValue left) (SearchStep.bound range ∅)).map
              ofSearch) := by
  obtain ⟨cutTokens, cutText, rfl⟩ := tokenize_eq_ok_iff.mp cut
  rw [beforeEnd_append_marker cutText _ rfl] at unpiped notBlank ⊢
  obtain ⟨tokens', clauses, cutText', readTokens, rfl⟩ :=
    (Search.read_eq_ok_iff (.endOfInput none)).mp read
  obtain rfl := Except.ok.inj (cutText.symm.trans cutText')
  refine ⟨?_, ?_, ?_, ?_⟩
  · rw [compile_of_readPipeline_search (readPipeline_of_unpiped cutText unpiped),
      SearchStep.compile_bound_empty plain read]
    rfl
  · intro noOption noQuotation
    have readSame := Search.read_writtenText_trimBlanks cutText readTokens
    rw [← positionalValue_eq_writtenText noQuotation] at readSame
    have stages := readPipeline_explicitSearch_of_no_option cutText readTokens unpiped notBlank
      noOption
    rw [compile_of_readPipeline_search stages, SearchStep.compile_bound_empty plain readSame]
    rfl
  · intro quoted isQuotation
    have stages := readPipeline_explicitSearch_of_no_option cutText readTokens unpiped notBlank
      fun _ _ _ => isQuotation.not_beginsWithOption
    rw [compile_of_readPipeline_search stages, isQuotation.positionalValue_eq]
  · intro key value left begins
    have stages := readPipeline_explicitSearch_of_option cutText unpiped begins
    rw [compile_of_readPipeline stages rfl]
    refine ⟨rfl, ?_⟩
    intro notStart notStop
    dsimp only
    rw [SearchStep.compile_bound_insert value.text notStart notStop]

/-- A comparison that does not stand at the front keeps its meaning behind the name. -/
theorem explicit_search_keeps_a_later_comparison :
    let range : TimeRange := { start? := some (.ofMillis 1704067200000) }
    let search := Search.ofClauses [.fragment "a", .equals "x" "b"]
    compile .builtin " a x=b " range = .ok (ofSearch { search, range }) ∧
      compile .builtin (explicitSearch " a x=b ") range = .ok (ofSearch { search, range }) := by
  intro range search
  let tokens : List Token :=
    [⟨.blank, " ", 0⟩, ⟨.word, "a", 1⟩, ⟨.blank, " ", 2⟩, ⟨.word, "x", 3⟩, ⟨.equals, "=", 4⟩,
      ⟨.word, "b", 5⟩, ⟨.blank, " ", 6⟩]
  have cut : tokensFrom 0 " a x=b ".toList = .ok tokens := by cbv
  have read : Search.read " a x=b " = .ok search :=
    (Search.read_eq_ok_iff (.endOfInput none)).mpr ⟨tokens, _, cut, by cbv, rfl⟩
  have plain : range.HasPlainYears := by
    constructor
    · intro instant given
      obtain rfl := Option.some.inj given
      unfold Instant.HasPlainYear
      decide
    · intro instant given
      cases given
  have same := explicit_search_compiles_like_its_text
    (tokenize_eq_ok_iff.mpr ⟨tokens, cut, rfl⟩) read (by decide) (by decide) plain
  refine ⟨same.1, same.2.1 ?_ ?_⟩
  · rintro key value left ⟨-, -, sign, rest, after, skipped, goesOn, isSign, -⟩
    have rest_eq : tokens.drop 2 = rest := (List.cons.inj skipped).2
    rw [← rest_eq] at goesOn
    have sign_eq : ⟨.word, "x", 3⟩ = sign := (List.cons.inj goesOn).1
    rw [← sign_eq] at isSign
    cases isSign
  · rintro quoted ⟨-, trimmed⟩
    cases trimmed

/-- A comparison at the front is taken for an option without effect behind the name: the search for
`a=b` does not find the event here, and the one that is named does. -/
theorem explicit_search_drops_a_leading_comparison :
    let type : FileType :=
      { name := defaultTypeName, timeLayout := "", parser := .json defaultDelimiter "_time" }
    let sources : Sources :=
      { events := { added := [⟨"x", .epoch, "h", "s"⟩] }
        configs := .constant
          { files := [{ fileName := "s" }], fileTypes := .ofList [(type.name, type)] } }
    (Search.read "a=b").toOption.isSome = true ∧
      tokenize "a=b" = .ok [⟨.word, "a", 0⟩, ⟨.equals, "=", 1⟩, ⟨.word, "b", 2⟩,
        ⟨.endOfInput, "", 3⟩] ∧
      ∃ implicit explicit, compile .builtin "a=b" {} = .ok implicit ∧
        compile .builtin (explicitSearch "a=b") {} = .ok explicit ∧
        (implicit.run sources false).events.map (·.raw) = [] ∧
        (explicit.run sources false).events.map (·.raw) = ["x"] := by
  intro type sources
  have implicitRun : (compile .builtin "a=b" {}).map
      (fun pipeline => (pipeline.run sources false).events.map (·.raw)) = .ok [] := by
    cbv
  have explicitRun : (compile .builtin (explicitSearch "a=b") {}).map
      (fun pipeline => (pipeline.run sources false).events.map (·.raw)) = .ok ["x"] := by
    cbv
  obtain ⟨implicit, implicitCompiled, implicitFound⟩ := map_eq_ok_iff.mp implicitRun
  obtain ⟨explicit, explicitCompiled, explicitFound⟩ := map_eq_ok_iff.mp explicitRun
  exact ⟨by cbv, by cbv, implicit, explicit, implicitCompiled, explicitCompiled, implicitFound,
    explicitFound⟩

end LogQuery.Pipeline
