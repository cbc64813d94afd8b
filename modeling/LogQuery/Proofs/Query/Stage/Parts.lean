import LogQuery.Proofs.Query.Stage.Reader
import LogQuery.Proofs.Query.Token.Partition

/-!
# Stages and the tokens they are read from

The pipes of a query divide its tokens into parts.  Each part behind a pipe spells one stage, and
the value of a stage is a run of these tokens as it is written in the query.  Cut by itself, such a
run has the same tokens again.
-/

namespace LogQuery.Query

/-- A pipe and the tokens behind it, up to the next pipe or the end of the query. -/
structure PipedPart where
  pipe : Token
  behind : List Token
  isPipe : pipe.kind = .pipe
  unpiped : ∀ token ∈ behind, token.kind ≠ .pipe

/-- Tokens divided at the pipes. -/
structure PipedTokens where
  front : List Token
  parts : List PipedPart
  unpiped : ∀ token ∈ front, token.kind ≠ .pipe

/-- The tokens of a part, the pipe included. -/
def PipedPart.tokens (part : PipedPart) : List Token :=
  part.pipe :: part.behind

/-- All tokens in their order. -/
def PipedTokens.tokens (piped : PipedTokens) : List Token :=
  piped.front ++ piped.parts.flatMap PipedPart.tokens

/-- Tokens behind a pipe spell a stage: a name, an option perhaps, and positional tokens. -/
inductive SpellsStage (tokens : List Token) (stage : Stage) : List Token → Prop where
  | option {name key value : Token} {rest positional : List Token}
      (named : skipBlanks tokens = name :: rest) (isWord : name.kind = .word)
      (name_eq : stage.name = name.text) (begins : BeginsWithOption rest key value positional)
      (options_eq : stage.options = (∅ : Fields).insert key.text value.text) :
      SpellsStage tokens stage positional
  | plain {name : Token} {rest : List Token} (named : skipBlanks tokens = name :: rest)
      (isWord : name.kind = .word) (name_eq : stage.name = name.text)
      (noOption : ∀ key value left, ¬BeginsWithOption rest key value left)
      (options_eq : stage.options = ∅) : SpellsStage tokens stage (skipBlanks rest)

/-- The tokens spell the stage, and its value is that of the positional ones. -/
def ReadsStage (tokens : List Token) (stage : Stage) : Prop :=
  ∃ positional, SpellsStage tokens stage positional ∧ stage.value = positionalValue positional

/-- Among the tokens are two or more that are no white space: `first`, `last` and perhaps some of
those in between. -/
structure SpansSignificant (tokens : List Token) (first : Token) (between : List Token)
    (last : Token) : Prop where
  around : ∃ before after, tokens = before ++ (first :: between ++ [last]) ++ after ∧
    ∀ token ∈ before ++ after, token.isBlank = true
  begins : first.isBlank = false
  ends : last.isBlank = false

/-- A part of a query that begins at the given byte and is cut, by itself, into the given tokens of
the query, except that they stand so many bytes nearer to the beginning. -/
structure CutsAlike (query value : String) (offset : Nat) (tokens : List Token) : Prop where
  isPart : ∃ before behind, query = before ++ value ++ behind ∧ before.utf8ByteSize = offset
  again : ∃ cut, tokenize value = .ok (cut ++ [⟨.endOfInput, "", value.utf8ByteSize⟩]) ∧
    cut.map (Token.shift offset) = tokens

/-! ## Runs of tokens -/

/-- A run of tokens of a query is cut into the same tokens by itself. -/
theorem cutsAlike_of_tokensFrom {query : String} {tokens rest : List Token} {first : Token}
    (cut : tokensFrom 0 query.toList = .ok tokens) (run : first :: rest <:+: tokens) :
    CutsAlike query (writtenText (first :: rest)) first.offset (first :: rest) := by
  obtain ⟨front, back, rfl⟩ := run
  rw [List.append_assoc] at cut
  have runCut := tokensFrom_front_of_append (tokensFrom_of_append cut)
  have offset_eq : first.offset = byteLength (front.flatMap Token.written) := by
    obtain ⟨_, _, _, rfl, -⟩ := exists_of_tokensFrom_cons runCut
    exact Nat.zero_add _
  constructor
  · refine ⟨writtenText front, writtenText back, ?_, ?_⟩
    · rw [← String.toList_inj, ← flatMap_written_of_tokensFrom cut]
      simp [writtenText]
    · rw [utf8ByteSize_eq_byteLength, writtenText, String.toList_ofList, offset_eq]
  · obtain ⟨others, othersCut, run_eq⟩ := exists_tokensFrom_zero runCut
    rw [Nat.zero_add, ← offset_eq] at run_eq
    refine ⟨others, tokenize_eq_ok_iff.mpr ⟨others, ?_, rfl⟩, run_eq.symm⟩
    rwa [writtenText, String.toList_ofList]

/-- The first tokens of a query stand where they are when they are cut by themselves. -/
theorem tokenize_writtenText_front {query : String} {front back : List Token}
    (cut : tokensFrom 0 query.toList = .ok (front ++ back)) :
    tokenize (writtenText front) =
      .ok (front ++ [⟨.endOfInput, "", (writtenText front).utf8ByteSize⟩]) := by
  refine tokenize_eq_ok_iff.mpr ⟨front, ?_, rfl⟩
  rw [writtenText, String.toList_ofList]
  exact tokensFrom_front_of_append cut

theorem SpansSignificant.trimBlanks_eq {tokens between : List Token} {first last : Token}
    (spans : SpansSignificant tokens first between last) :
    trimBlanks tokens = first :: between ++ [last] := by
  obtain ⟨before, after, rfl, blank⟩ := spans.around
  have blankBefore : ∀ token ∈ before, token.isBlank = true := fun token member =>
    blank token (List.mem_append_left after member)
  have blankAfter : ∀ token ∈ after.reverse, token.isBlank = true := fun token member =>
    blank token (List.mem_append_right before (List.mem_reverse.mp member))
  have fromFirst : skipBlanks (before ++ (first :: between ++ [last]) ++ after) =
      first :: between ++ [last] ++ after := by
    rw [List.append_assoc]
    exact skipBlanks_append_cons blankBefore spans.begins _
  have fromLast : skipBlanks (first :: between ++ [last] ++ after).reverse =
      (first :: between ++ [last]).reverse := by
    rw [List.reverse_append, List.reverse_append]
    exact skipBlanks_append_cons blankAfter spans.ends _
  rw [trimBlanks, fromFirst, fromLast, List.reverse_reverse]

theorem SpansSignificant.positionalValue_eq {tokens between : List Token} {first last : Token}
    (spans : SpansSignificant tokens first between last) :
    positionalValue tokens = writtenText (first :: between ++ [last]) := by
  unfold positionalValue
  rw [spans.trimBlanks_eq]
  cases between with
  | nil => rfl
  | cons second between => rfl

/-- What tokens of a query leave of them when they make a value. -/
theorem exists_tokensFrom_positionalValue {query : String} {tokens left : List Token}
    (cut : tokensFrom 0 query.toList = .ok tokens) (run : trimBlanks left <:+: tokens)
    (notText : ∀ token, trimBlanks left = [token] → token.isValue = false) :
    ∃ others distance, tokensFrom 0 (positionalValue left).toList = .ok others ∧
      others.map (Token.shift distance) = trimBlanks left := by
  cases trimmed : trimBlanks left with
  | nil =>
      refine ⟨[], 0, ?_, rfl⟩
      rw [positionalValue, trimmed]
      exact tokensFrom_nil_eq_ok_iff.mpr rfl
  | cons first rest =>
      rw [trimmed] at run
      obtain ⟨others, tokenized, shifted⟩ := (cutsAlike_of_tokensFrom cut run).again
      obtain ⟨others', othersCut, same⟩ := tokenize_eq_ok_iff.mp tokenized
      obtain rfl := List.append_cancel_right same
      have value_eq : positionalValue left = writtenText (first :: rest) := by
        rw [positionalValue, trimmed]
        cases rest with
        | nil => exact if_neg (by rw [notText first trimmed]; exact Bool.false_ne_true)
        | cons second rest => rfl
      exact ⟨others, first.offset, by rwa [value_eq], shifted⟩

/-! ## Cutting at the pipes -/

theorem exists_piped_of_split (finish : Stop) (tokens : List Token) :
    ∃ piped : PipedTokens, piped.tokens = tokens ∧
      (Segment.split finish tokens).map Segment.tokens =
        piped.front :: piped.parts.map PipedPart.behind := by
  induction tokens with
  | nil => exact ⟨⟨[], [], by simp⟩, rfl, rfl⟩
  | cons token tokens inductionHypothesis =>
      obtain ⟨⟨front, parts, unpiped⟩, rfl, split_eq⟩ := inductionHypothesis
      rw [Segment.split]
      split
      · next isPipe =>
          refine ⟨⟨[], ⟨token, front, eq_of_beq isPipe, unpiped⟩ :: parts, by simp⟩, rfl, ?_⟩
          exact congrArg ([] :: ·) split_eq
      · next notPipe =>
          have stillUnpiped : ∀ other ∈ token :: front, other.kind ≠ .pipe :=
            List.forall_mem_cons.mpr ⟨by simpa using notPipe, unpiped⟩
          refine ⟨⟨token :: front, parts, stillUnpiped⟩, rfl, ?_⟩
          split
          · next noSegments =>
              rw [noSegments] at split_eq
              cases split_eq
          · next segment segments segments_eq =>
              rw [segments_eq, List.map_cons] at split_eq
              obtain ⟨front_eq, parts_eq⟩ := List.cons.inj split_eq
              rw [List.map_cons, front_eq, parts_eq]

theorem PipedTokens.exists_tokens_eq {piped : PipedTokens} {part : PipedPart}
    (member : part ∈ piped.parts) :
    ∃ before after, piped.tokens = before ++ part.tokens ++ after := by
  obtain ⟨earlier, later, parts_eq⟩ := List.append_of_mem member
  refine ⟨piped.front ++ earlier.flatMap PipedPart.tokens, later.flatMap PipedPart.tokens, ?_⟩
  simp [PipedTokens.tokens, parts_eq]

theorem PipedTokens.behind_infix {piped : PipedTokens} {part : PipedPart}
    (member : part ∈ piped.parts) : part.behind <:+: piped.tokens := by
  obtain ⟨before, after, tokens_eq⟩ := exists_tokens_eq member
  exact (List.suffix_cons part.pipe part.behind).isInfix.trans ⟨before, after, tokens_eq.symm⟩

/-! ## The tokens of a stage -/

theorem suffix_of_skipBlanks {tokens rest : List Token} {first : Token}
    (skipped : skipBlanks tokens = first :: rest) : rest <:+ tokens := by
  have suffix := List.dropWhile_suffix (l := tokens) Token.isBlank
  rw [show tokens.dropWhile Token.isBlank = first :: rest from skipped] at suffix
  exact (List.suffix_cons first rest).trans suffix

theorem BeginsWithOption.suffix {tokens left : List Token} {key value : Token}
    (begins : BeginsWithOption tokens key value left) : left <:+ tokens := by
  obtain ⟨sign, rest, after, skipped, goesOn, -, skippedAgain⟩ := begins.spelled
  exact (suffix_of_skipBlanks skippedAgain).trans
    ((suffix_of_skipBlanks goesOn).trans (suffix_of_skipBlanks skipped))

theorem SpellsStage.suffix {tokens positional : List Token} {stage : Stage}
    (spells : SpellsStage tokens stage positional) : positional <:+ tokens := by
  cases spells with
  | option named _ _ begins _ => exact begins.suffix.trans (suffix_of_skipBlanks named)
  | plain named _ _ _ _ => exact (List.dropWhile_suffix _).trans (suffix_of_skipBlanks named)

/-- Either the tokens begin with an option, or they are left as they are. -/
theorem readOption_cases {finish : Stop} {tokens left : List Token} {options : Fields}
    (read : readOption finish (skipBlanks tokens) = .ok (options, left)) :
    (∃ key value, BeginsWithOption tokens key value left ∧
        options = (∅ : Fields).insert key.text value.text) ∨
      (∀ key value left, ¬BeginsWithOption tokens key value left) ∧ options = ∅ ∧
        left = skipBlanks tokens := by
  by_cases begins : ∃ key value left, BeginsWithOption tokens key value left
  · obtain ⟨key, value, left', begins⟩ := begins
    rw [begins.readOption_eq finish] at read
    cases read
    exact .inl ⟨key, value, begins, rfl⟩
  · simp only [not_exists] at begins
    refine .inr ⟨begins, ?_⟩
    cases skipped : skipBlanks tokens with
    | nil =>
        rw [skipped] at read
        cases read
        exact ⟨rfl, rfl⟩
    | cons key rest =>
        rw [skipped, readOption] at read
        dsimp only at read
        cases goesOn : skipBlanks rest with
        | nil =>
            rw [goesOn] at read
            cases read
            exact ⟨rfl, rfl⟩
        | cons sign after =>
            rw [goesOn] at read
            dsimp only at read
            split at read
            · next isOption =>
                obtain ⟨⟨text, left'⟩, readText, made⟩ := bind_eq_ok.mp read
                obtain ⟨value, skippedAgain, isValue, -⟩ := readValue_eq_ok_iff.mp readText
                rw [Bool.and_eq_true, beq_iff_eq, beq_iff_eq] at isOption
                exact absurd ⟨isOption.1, isValue, sign, rest, after, skipped, goesOn, isOption.2,
                  skippedAgain⟩ (begins key value left')
            · cases read
              exact ⟨rfl, rfl⟩

theorem readsStage_of_ofSegment {segment : Segment} {stage : Stage}
    (read : Stage.ofSegment segment = .ok stage) : ReadsStage segment.tokens stage := by
  unfold Stage.ofSegment at read
  split at read
  · cases read
  · next name rest named =>
      split at read
      · next isWord =>
          obtain ⟨⟨options, left⟩, readRest, made⟩ := bind_eq_ok.mp read
          dsimp only at made
          split at made
          · cases made
          · cases made
            refine ⟨left, ?_, rfl⟩
            rcases readOption_cases readRest with ⟨key, value, begins, rfl⟩ | ⟨noOption, rfl, rfl⟩
            · exact .option named (eq_of_beq isWord) rfl begins rfl
            · exact .plain named (eq_of_beq isWord) rfl noOption rfl
      · cases read

/-- How the stages of a query come from its tokens. -/
theorem exists_piped_of_readPipeline {query : String} {stages : List Stage}
    (read : readPipeline query = .ok stages) :
    ∃ (piped : PipedTokens) (named : List Stage), tokensFrom 0 query.toList = .ok piped.tokens ∧
      stages = (if piped.front.all Token.isBlank && !piped.parts.isEmpty then []
        else [Stage.search (writtenText piped.front)]) ++ named ∧
      List.Forall₂ (fun part stage => ReadsStage part.behind stage) piped.parts named := by
  unfold readPipeline at read
  obtain ⟨tokens, tokenized, read⟩ := bind_eq_ok.mp read
  obtain ⟨cut, cutEq, rfl⟩ := tokenize_eq_ok_iff.mp tokenized
  rw [beforeEnd_append_marker cutEq _ rfl, mapError_eq_ok_iff] at read
  generalize Stop.endOfInput _ = finish at read
  obtain ⟨piped, rfl, split_eq⟩ := exists_piped_of_split finish cut
  cases segments_eq : Segment.split finish piped.tokens with
  | nil =>
      rw [segments_eq] at split_eq
      cases split_eq
  | cons first others =>
      rw [segments_eq] at split_eq read
      obtain ⟨front_eq, others_eq⟩ := List.cons.inj split_eq
      obtain ⟨named, readOthers, made⟩ := bind_eq_ok.mp read
      cases made
      have isEmpty_eq : others.isEmpty = piped.parts.isEmpty := by
        simpa using congrArg List.isEmpty others_eq
      have spelled : List.Forall₂ ReadsStage (others.map Segment.tokens) named :=
        List.forall₂_map_left_iff.mpr
          ((mapM_eq_ok_iff.mp readOthers).imp fun _ _ read => readsStage_of_ofSegment read)
      rw [others_eq] at spelled
      refine ⟨piped, named, cutEq, ?_, List.forall₂_map_left_iff.mp spelled⟩
      rw [Stage.leading, front_eq, isEmpty_eq]

end LogQuery.Query
