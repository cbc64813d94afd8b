import LogQuery.Proofs.Query.Stage.Joining
import LogQuery.Proofs.Query.Token.Quotation

/-!
# Stages that are written down

A stage with one option at most can be written as a query: its name, the option with its value in
quotes, and its own value in quotes.  Such stages, one behind the other, are read back as they are,
since nothing in quotes is taken for a pipe, an option or the end of a value.
-/

namespace LogQuery.Query

/-- An option whose key is a word and stays apart from the equals sign behind it. -/
structure WritableOption where
  key : String
  value : String
  isWord : IsWord key
  apart : key.toList.getLast? ≠ some '!'
  isQuotable : IsQuotable value

/-- A stage whose name is a word and whose values can be put in quotes. -/
structure WritableStage where
  name : String
  option : Option WritableOption
  value : String
  isWord : IsWord name
  isQuotable : IsQuotable value

/-- The option as it is written in front of a positional value. -/
def WritableOption.written (option : WritableOption) : String :=
  option.key ++ "=" ++ quotation option.value ++ " "

namespace WritableStage

/-- The option, if there is one, and the positional value. -/
def writtenValues (stage : WritableStage) : String :=
  stage.option.elim "" WritableOption.written ++ quotation stage.value

/-- The stage as it is written behind a pipe. -/
def written (stage : WritableStage) : String :=
  "| " ++ stage.name ++ " " ++ stage.writtenValues

/-- What is read back. -/
def toStage (stage : WritableStage) : Stage where
  name := stage.name
  options := stage.option.elim ∅ fun option => (∅ : Fields).insert option.key option.value
  value := stage.value

end WritableStage

/-- Stages one behind the other. -/
def writtenStages (stages : List WritableStage) : String :=
  String.join (stages.map WritableStage.written)

/-! ## One stage -/

/-- The equals sign behind a key ends it, unless it is read together with an exclamation mark. -/
theorem breaksWord_equals {text : List Char} (apart : text.getLast? ≠ some '!')
    (further : List Char) : BreaksWord text ('=' :: further) where
  ends := rfl
  apart bang := absurd bang apart

theorem WritableOption.exists_tokensFrom (option : WritableOption) {value : String}
    (isQuotable : IsQuotable value) :
    ∃ sign first gap second,
      tokensFrom 0 (option.written ++ quotation value).toList =
        .ok [⟨.word, option.key, 0⟩, ⟨.equals, "=", sign⟩, ⟨.quoted, option.value, first⟩,
          ⟨.blank, " ", gap⟩, ⟨.quoted, value, second⟩] := by
  have text_eq : (option.written ++ quotation value).toList =
      option.key.toList ++
        '=' :: (quote option.value.toList ++ ' ' :: (quotation value).toList) := by
    simp [written, quotation]
  have key : ReadsTo (option.key.toList ++ '=' :: (quote option.value.toList ++
      ' ' :: (quotation value).toList)) .word option.key.toList
      ('=' :: (quote option.value.toList ++ ' ' :: (quotation value).toList)) :=
    (isWord_iff.mp option.isWord).append fun _ _ => breaksWord_equals option.apart _
  have quoted := readsTo_quote_append option.isQuotable (' ' :: (quotation value).toList)
  have cut : tokensFrom 0 _ = .ok (⟨.word, String.ofList option.key.toList, 0⟩ ::
      ⟨.equals, "=", _⟩ :: ⟨.quoted, String.ofList option.value.toList, _⟩ :: _) :=
    key.tokensFrom ((ReadsTo.equals _).tokensFrom (quoted.tokensFrom
      ((ReadsTo.blank rfl).tokensFrom (isQuotable.tokensFrom _))))
  rw [String.ofList_toList, String.ofList_toList, ← text_eq] at cut
  exact ⟨_, _, _, _, cut⟩

theorem WritableStage.readPipeline_written (stage : WritableStage) :
    readPipeline stage.written = .ok [stage.toStage] := by
  obtain ⟨name, option, value, isWord, isQuotable⟩ := stage
  change readPipeline (namedStage name _) = _
  cases option with
  | none =>
      have quoted : IsQuotation [⟨.quoted, value, 0⟩] ⟨.quoted, value, 0⟩ := ⟨rfl, rfl⟩
      have cut : tokensFrom 0 ("" ++ quotation value).toList = .ok [⟨.quoted, value, 0⟩] := by
        rw [String.empty_append]
        exact isQuotable.tokensFrom 0
      have read : readOption (.endOfInput none) (skipBlanks [⟨.quoted, value, 0⟩]) =
          .ok (∅, [⟨.quoted, value, 0⟩]) := rfl
      have named := readPipeline_namedStage isWord cut (by simp) read
        (.inr ⟨_, List.mem_cons_self, rfl⟩)
      rwa [quoted.positionalValue_eq] at named
  | some option =>
      obtain ⟨sign, first, gap, second, cut⟩ := option.exists_tokensFrom isQuotable
      have begins : BeginsWithOption [⟨.word, option.key, 0⟩, ⟨.equals, "=", sign⟩,
          ⟨.quoted, option.value, first⟩, ⟨.blank, " ", gap⟩, ⟨.quoted, value, second⟩]
          ⟨.word, option.key, 0⟩ ⟨.quoted, option.value, first⟩
          [⟨.blank, " ", gap⟩, ⟨.quoted, value, second⟩] :=
        ⟨rfl, rfl, _, _, _, rfl, rfl, rfl, rfl⟩
      have quoted : IsQuotation [⟨.blank, " ", gap⟩, ⟨.quoted, value, second⟩]
          ⟨.quoted, value, second⟩ := ⟨rfl, rfl⟩
      have named := readPipeline_namedStage_of_option isWord cut (by simp) begins
      rwa [quoted.positionalValue_eq] at named

theorem WritableStage.exists_written_eq (stage : WritableStage) :
    ∃ further, stage.written = "|" ++ further := by
  refine ⟨" " ++ stage.name ++ " " ++ stage.writtenValues, ?_⟩
  rw [← String.toList_inj]
  simp [written]

theorem WritableStage.exists_tokensFrom_written (stage : WritableStage) :
    ∃ tokens, tokensFrom 0 stage.written.toList = .ok tokens ∧
      ∃ token ∈ tokens, token.isBlank = false := by
  obtain ⟨tokens, cut, -⟩ :=
    (readPipeline_eq_ok_iff (.endOfInput none)).mp stage.readPipeline_written
  obtain ⟨further, written_eq⟩ := stage.exists_written_eq
  rw [written_eq] at cut ⊢
  obtain ⟨pipe, others, isPipe, rfl⟩ := exists_tokensFrom_pipe cut
  exact ⟨_, cut, pipe, List.mem_cons_self, by simp [Token.isBlank, isPipe]⟩

/-! ## Several stages -/

theorem writtenStages_cons (stage : WritableStage) (stages : List WritableStage) :
    writtenStages (stage :: stages) = stage.written ++ writtenStages stages :=
  String.join_cons

theorem exists_writtenStages_cons (stage : WritableStage) (stages : List WritableStage) :
    ∃ further, writtenStages (stage :: stages) = "|" ++ further := by
  obtain ⟨further, written_eq⟩ := stage.exists_written_eq
  refine ⟨further ++ writtenStages stages, ?_⟩
  rw [writtenStages_cons, written_eq, String.append_assoc]

theorem readPipeline_writtenStages {stages : List WritableStage} (notEmpty : stages ≠ []) :
    readPipeline (writtenStages stages) = .ok (stages.map WritableStage.toStage) := by
  induction stages with
  | nil => exact absurd rfl notEmpty
  | cons stage stages inductionHypothesis =>
      rw [writtenStages_cons]
      cases stages with
      | nil =>
          rw [writtenStages, List.map_nil, String.join_nil, String.append_empty]
          exact stage.readPipeline_written
      | cons next stages =>
          have readOthers := inductionHypothesis (List.cons_ne_nil next stages)
          obtain ⟨tokens, cut, notBlank⟩ := stage.exists_tokensFrom_written
          obtain ⟨further, others_eq⟩ := exists_writtenStages_cons next stages
          rw [others_eq] at readOthers ⊢
          exact readPipeline_append_pipe cut notBlank stage.readPipeline_written readOthers

/-- Stages that are written one behind the other are read back as they are, and a text without pipes
in front of them is the value of one search stage more. -/
theorem written_stages_are_read_back {stages : List WritableStage} (notEmpty : stages ≠ []) :
    readPipeline (writtenStages stages) = .ok (stages.map WritableStage.toStage) ∧
      ∀ text tokens, tokenize text = .ok tokens → (∀ token ∈ tokens, token.kind ≠ .pipe) →
        (∃ token ∈ beforeEnd tokens, token.isBlank = false) →
        readPipeline (text ++ writtenStages stages) =
          .ok (Stage.search text :: stages.map WritableStage.toStage) := by
  have readStages := readPipeline_writtenStages notEmpty
  refine ⟨readStages, ?_⟩
  intro text tokens tokenized unpiped notBlank
  obtain ⟨cut, cutEq, rfl⟩ := tokenize_eq_ok_iff.mp tokenized
  rw [beforeEnd_append_marker cutEq _ rfl] at notBlank
  have readText := readPipeline_of_unpiped cutEq fun token member =>
    unpiped token (List.mem_append_left _ member)
  obtain ⟨stage, others, rfl⟩ := List.exists_cons_of_ne_nil notEmpty
  obtain ⟨further, written_eq⟩ := exists_writtenStages_cons stage others
  rw [written_eq] at readStages ⊢
  exact readPipeline_append_pipe cutEq notBlank readText readStages

/-- Symbols in quotes are read back as parts of the values, and a name may end with a mark that is
part of a symbol. -/
theorem pipes_and_quotes_in_values_are_read_back :
    readPipeline "x \"|\"| s! k=\"a=\\\"b\\\" | c\" \", \\\"=\"| in2 \"\"" =
      .ok [.search "x \"|\"", ⟨"s!", (∅ : Fields).insert "k" "a=\"b\" | c", ", \"="⟩,
        ⟨"in2", ∅, ""⟩] := by
  let option : WritableOption :=
    ⟨"k", "a=\"b\" | c", ⟨⟨.word, "k", 0⟩, by cbv, rfl⟩, by decide, by decide⟩
  let first : WritableStage :=
    ⟨"s!", some option, ", \"=", ⟨⟨.word, "s!", 0⟩, by cbv, rfl⟩, by decide⟩
  let second : WritableStage :=
    ⟨"in2", none, "", ⟨⟨.word, "in2", 0⟩, by cbv, rfl⟩, by decide⟩
  have tokenized : tokenize "x \"|\"" =
      .ok [⟨.word, "x", 0⟩, ⟨.blank, " ", 1⟩, ⟨.quoted, "|", 2⟩, ⟨.endOfInput, "", 5⟩] := by
    cbv
  have readBack := (written_stages_are_read_back (List.cons_ne_nil first [second])).2 "x \"|\"" _
    tokenized (by decide) ⟨⟨.word, "x", 0⟩, List.mem_cons_self, rfl⟩
  have written_eq : "x \"|\"" ++ writtenStages [first, second] =
      "x \"|\"| s! k=\"a=\\\"b\\\" | c\" \", \\\"=\"| in2 \"\"" := by
    cbv
  rwa [written_eq] at readBack

end LogQuery.Query
