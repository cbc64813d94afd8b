import LogQuery.Proofs.Pipeline.Builtin
import LogQuery.Proofs.Query.Stage.Faults
import Mathlib

/-!
# Offsets of errors

The offset of an error counts bytes of the text that is read.  For the stages of a query this text is
the query itself, but a search stage reads its value, which may begin further on in the query, end
before it does, or be a quoted text without its quotes and escapes.  Such offsets are not translated
back, so they can point at another place of the query or at none.
-/

namespace LogQuery.Pipeline

open LogQuery.Query

/-- The text is the part of the query from the given byte on, and its tokens are tokens of the
query, so many bytes further on. -/
structure LiesAt (query text : String) (offset : Nat) : Prop where
  isPart : ∃ before behind, query = before ++ text ++ behind ∧ before.utf8ByteSize = offset
  stands : ∀ token : Token, token.StandsIn text → (token.shift offset).StandsIn query

/-- A pipe of the query stands in front of the given byte. -/
def BehindPipe (query : String) (offset : Nat) : Prop :=
  ∃ pipe : Token, pipe.StandsIn query ∧ pipe.kind = .pipe ∧ pipe.offset < offset

/-- The query has a search stage with the value, which cannot be read as a search. -/
structure FailsToSearch (query value : String) (error : QueryError) : Prop where
  isSearch : ∃ stages stage, readPipeline query = .ok stages ∧ stage ∈ stages ∧
    stage.name = searchName ∧ stage.value = value
  unread : Search.read value = .error error

/-- Where the offset of an error leads.  It is one of the query, except where a search stage fails
at the end of its text or behind a pipe. -/
inductive Leads (query : String) : QueryError → Prop where
  /-- The error points into the query. -/
  | toQuery {error : QueryError} (points : error.PointsInto query) : Leads query error
  /-- What the message calls the end of the input is the first pipe. -/
  | toPipe {pipe : Token} {value : String} {wanted : Wanted} (stands : pipe.StandsIn query)
      (isPipe : pipe.kind = .pipe) (liesAt : LiesAt query value 0)
      (ends : value.utf8ByteSize = pipe.offset)
      (fails : FailsToSearch query value
        (.grammar (.expected wanted (.endOfInput (some pipe.offset))))) :
      Leads query (.grammar (.expected wanted (.endOfInput (some pipe.offset))))
  /-- The error points into a part of the query, and its offset counts from there. -/
  | intoPart {value : String} {offset : Nat} {error : GrammarError}
      (behindPipe : BehindPipe query offset) (liesAt : LiesAt query value offset)
      (fails : FailsToSearch query value (.grammar error))
      (points : QueryError.PointsInto value (.grammar error)) : Leads query (.grammar error)
  /-- The error points into what is quoted by a token of the query. -/
  | intoQuotation {token : Token} {error : QueryError} (behindPipe : BehindPipe query token.offset)
      (stands : token.StandsIn query) (isQuoted : token.kind = .quoted)
      (fails : FailsToSearch query token.text error) (points : error.PointsInto token.text) :
      Leads query error

/-- Without pipes an error leads nowhere but into the query. -/
theorem Leads.pointsInto_of_unpiped {query : String} {error : QueryError}
    (leads : Leads query error)
    (unpiped : ∀ token : Token, token.StandsIn query → token.kind ≠ .pipe) :
    error.PointsInto query := by
  cases leads with
  | toQuery points => exact points
  | toPipe stands isPipe => exact absurd isPipe (unpiped _ stands)
  | intoPart behindPipe | intoQuotation behindPipe =>
      obtain ⟨pipe, stands, isPipe, -⟩ := behindPipe
      exact absurd isPipe (unpiped pipe stands)

/-! ## Which stage fails -/

section Fails

variable {query : String} {range : TimeRange} {error : QueryError}

theorem SearchStep.read_of_compile_eq_error {value : String} {options : Fields}
    (fails : compile value options = .error (.query error)) : Search.read value = .error error := by
  have notOfTime {name : String} : readTime options name ≠ .error (.query error) := by
    unfold readTime
    split
    · exact nofun
    · split
      · exact nofun
      · exact nofun
  unfold compile at fails
  obtain ⟨start?, -, fails⟩ := (bind_eq_error_iff.mp fails).resolve_left notOfTime
  obtain ⟨stop?, -, fails⟩ := (bind_eq_error_iff.mp fails).resolve_left notOfTime
  have fails := (bind_eq_error_iff.mp fails).resolve_right (by simp)
  obtain ⟨_, unread, same⟩ := mapError_eq_error_iff.mp fails
  rwa [CompileError.query.inj same] at unread

/-- Only search stages fail as texts do. -/
theorem StepRegistry.search_of_compileStage_eq_error {stage : Stage}
    (fails : builtin.compileStage stage = .error (.query error)) :
    stage.name = searchName ∧ Search.read stage.value = .error error := by
  have notOfFault {outcome : Except StepFault Step} :
      outcome.mapError CompileError.step ≠ .error (.query error) := by
    intro ofFault
    obtain ⟨_, -, impossible⟩ := mapError_eq_error_iff.mp ofFault
    cases impossible
  unfold compileStage at fails
  split at fails
  · next compiler found =>
      rcases get?_builtin_eq_some_iff.mp found with ⟨name_eq, rfl⟩ | ⟨-, rfl⟩ | ⟨-, rfl⟩ |
        ⟨-, rfl⟩ | ⟨-, rfl⟩
      · exact ⟨name_eq, SearchStep.read_of_compile_eq_error (map_eq_error_iff.mp fails)⟩
      all_goals exact absurd fails notOfFault
  · cases fails

theorem resolve_ne_query {steps : List Step} {current : PipeType} {before : String} :
    resolve current before steps ≠ .error (.query error) := by
  intro fails
  induction steps generalizing current before with
  | nil =>
      rw [resolve] at fails
      split at fails <;> cases fails
  | cons step steps inductionHypothesis =>
      rw [resolve] at fails
      split at fails
      · exact inductionHypothesis ((bind_eq_error_iff.mp fails).resolve_right (by simp))
      · split at fails
        · cases fails
        · exact inductionHypothesis ((bind_eq_error_iff.mp fails).resolve_right (by simp))
      · cases fails

theorem exists_mem_of_mem_boundFirst {stages : List Stage} {bounded : Stage}
    (member : bounded ∈ boundFirst range stages) :
    ∃ stage ∈ stages, stage.name = bounded.name ∧ stage.value = bounded.value := by
  cases stages with
  | nil => cases member
  | cons first others =>
      rw [boundFirst] at member
      split at member
      · rcases List.mem_cons.mp member with rfl | later
        · exact ⟨first, List.mem_cons_self, rfl, rfl⟩
        · exact ⟨bounded, List.mem_cons_of_mem first later, rfl, rfl⟩
      · exact ⟨bounded, member, rfl, rfl⟩

/-- A query that fails as texts do cannot be cut into stages, or one of them is a search that cannot
be read. -/
theorem exists_fails_of_compile (fails : compile .builtin query range = .error (.query error)) :
    readPipeline query = .error error ∨ ∃ value, FailsToSearch query value error := by
  cases failsToCompile_of_compile fails with
  | query unread => exact .inl unread
  | @stage stages bounded _ read member stageFails =>
      obtain ⟨stage, member, name_eq, value_eq⟩ := exists_mem_of_mem_boundFirst member
      obtain ⟨isSearch, unread⟩ := StepRegistry.search_of_compileStage_eq_error stageFails
      exact .inr ⟨bounded.value, ⟨stages, stage, read, member, name_eq.trans isSearch, value_eq⟩,
        unread⟩
  | search searchFails =>
      -- The search for everything can always be read.
      rw [StepRegistry.compileSearch_builtin, map_eq_error_iff] at searchFails
      have unread := SearchStep.read_of_compile_eq_error searchFails
      rw [Search.read_empty] at unread
      cases unread
  | types _ _ resolveFails => exact absurd resolveFails resolve_ne_query

end Fails

/-! ## Where the value of a search lies -/

section Values

variable {query value : String} {piped : PipedTokens} {error : QueryError}
  (cut : tokensFrom 0 query.toList = .ok piped.tokens)

theorem exists_grammar_of_pointsInto {cut : List Token} (points : error.PointsInto value)
    (tokenized : tokenize value = .ok cut) : ∃ fault, error = .grammar fault := by
  cases points with
  | unterminatedQuote opens =>
      rw [tokenize_eq_error_iff.mpr ⟨_, _, opens, rfl⟩] at tokenized
      cases tokenized
  | unexpected | found | ended | emptyStage => exact ⟨_, rfl⟩

include cut

theorem liesAt_of_cutsAlike {offset : Nat} {tokens : List Token}
    (cutsAlike : CutsAlike query value offset tokens) (subset : tokens ⊆ piped.tokens) :
    LiesAt query value offset where
  isPart := cutsAlike.isPart
  stands := by
    rintro token ⟨⟨all, tokenized, member⟩, -⟩
    obtain ⟨others, again, rfl⟩ := cutsAlike.again
    obtain rfl := Except.ok.inj (again.symm.trans tokenized)
    obtain ⟨others', othersCut, same⟩ := tokenize_eq_ok_iff.mp again
    obtain rfl := List.append_cancel_right same
    rw [beforeEnd_append_marker othersCut _ rfl] at member
    exact Token.standsIn_of_mem cut (subset (List.mem_map_of_mem member))

theorem behindPipe_of_mem {part : PipedPart} {token : Token} (isPart : part ∈ piped.parts)
    (member : token ∈ part.behind) : BehindPipe query token.offset := by
  obtain ⟨before, after, tokens_eq⟩ := PipedTokens.exists_tokens_eq isPart
  have pipeMember : part.pipe ∈ piped.tokens := by simp [tokens_eq, PipedPart.tokens]
  refine ⟨part.pipe, Token.standsIn_of_mem cut pipeMember, part.isPipe, ?_⟩
  have inOrder : [part.pipe, token].Sublist piped.tokens := by
    have inPart : [part.pipe, token].Sublist part.tokens :=
      (List.singleton_sublist.mpr member).cons_cons part.pipe
    have isInfix : part.tokens <:+: piped.tokens := ⟨before, after, tokens_eq.symm⟩
    exact inPart.trans isInfix.sublist
  have ascending := (partitions_of_tokenize (tokenize_eq_ok_iff.mpr ⟨_, cut, rfl⟩)).ascending
  rw [List.map_append] at ascending
  have increases := (List.pairwise_append.mp ascending).1.sublist (inOrder.map Token.offset)
  simpa using increases

theorem cutsAlike_of_front : CutsAlike query (writtenText piped.front) 0 piped.front where
  isPart := by
    refine ⟨"", writtenText (piped.parts.flatMap PipedPart.tokens), ?_, rfl⟩
    rw [← String.toList_inj, ← flatMap_written_of_tokensFrom cut]
    simp [PipedTokens.tokens, writtenText]
  again := ⟨piped.front, tokenize_writtenText_front cut, List.map_id piped.front⟩

/-- What stands in front of the pipes ends where the first of them stands. -/
theorem offset_first_pipe {part : PipedPart} {parts : List PipedPart}
    (parts_eq : piped.parts = part :: parts) :
    (writtenText piped.front).utf8ByteSize = part.pipe.offset := by
  have behind : tokensFrom 0 query.toList = .ok (piped.front ++ part.pipe ::
      (part.behind ++ parts.flatMap PipedPart.tokens)) := by
    rw [cut, PipedTokens.tokens, parts_eq]
    rfl
  obtain ⟨kind, inside, left, pipe_eq, -⟩ := exists_of_tokensFrom_cons (tokensFrom_of_append behind)
  rw [pipe_eq, utf8ByteSize_eq_byteLength, writtenText, String.toList_ofList]
  exact (Nat.zero_add _).symm

/-- A search in front of the pipes. -/
theorem leads_of_front (fails : FailsToSearch query (writtenText piped.front) error) :
    Leads query error := by
  have cutsAlike := cutsAlike_of_front cut
  have liesAt := liesAt_of_cutsAlike cut cutsAlike (List.subset_append_left piped.front _)
  have stands {token : Token} (inFront : token.StandsIn (writtenText piped.front)) :
      token.StandsIn query := liesAt.stands token inFront
  cases pointsInto_of_readSearch fails.unread with
  | unterminatedQuote opens =>
      -- The front has been cut with the query, so all its quotes are closed.
      have again := tokenize_writtenText_front cut
      rw [tokenize_eq_error_iff.mpr ⟨_, _, opens, rfl⟩] at again
      cases again
  | unexpected inFront => exact .toQuery (.unexpected (stands inFront))
  | found inFront => exact .toQuery (.found (stands inFront))
  | emptyStage inFront => exact .toQuery (.emptyStage (stands inFront))
  | ended =>
      cases parts_eq : piped.parts with
      | nil =>
          have query_eq : query = writtenText piped.front := by
            rw [← String.toList_inj, ← flatMap_written_of_tokensFrom cut, PipedTokens.tokens,
              parts_eq, writtenText, String.toList_ofList, List.flatMap_nil, List.append_nil]
          rw [← query_eq]
          exact .toQuery .ended
      | cons part parts =>
          have pipeMember : part.pipe ∈ piped.tokens := by
            simp [PipedTokens.tokens, PipedPart.tokens, parts_eq]
          have ends := offset_first_pipe cut parts_eq
          rw [ends] at fails ⊢
          exact .toPipe (Token.standsIn_of_mem cut pipeMember) part.isPipe liesAt ends fails

/-- A search behind a pipe. -/
theorem leads_of_part {part : PipedPart} {stage : Stage} (isPart : part ∈ piped.parts)
    (reads : ReadsStage part.behind stage) (fails : FailsToSearch query stage.value error) :
    Leads query error := by
  obtain ⟨positional, spells, value_eq⟩ := reads
  have points := pointsInto_of_readSearch fails.unread
  have inPart : trimBlanks positional <:+: part.behind := by
    obtain ⟨blanks, skipped, -⟩ := exists_skipBlanks_eq_append positional
    have inSkipped : trimBlanks positional <:+: skipBlanks positional := ⟨[], blanks, skipped.symm⟩
    exact inSkipped.trans ((skipBlanks_suffix positional).trans spells.suffix).isInfix
  have inQuery := PipedTokens.behind_infix isPart
  -- Only a quoted text by itself is passed on otherwise than it is written.
  by_cases isQuotation : ∃ quoted, IsQuotation positional quoted
  · obtain ⟨quoted, isQuoted, single⟩ := isQuotation
    rw [value_eq, IsQuotation.positionalValue_eq ⟨isQuoted, single⟩] at fails points
    have member : quoted ∈ part.behind := inPart.subset (single ▸ List.mem_cons_self)
    exact .intoQuotation (behindPipe_of_mem cut isPart member)
      (Token.standsIn_of_mem cut (inQuery.subset member)) isQuoted fails points
  · rw [value_eq, positionalValue_eq_writtenText (not_exists.mp isQuotation)] at fails points
    cases trimmed : trimBlanks positional with
    | nil =>
        have unread := fails.unread
        rw [trimmed, show writtenText [] = "" from rfl, Search.read_empty] at unread
        cases unread
    | cons first rest =>
        rw [trimmed] at fails points inPart
        have cutsAlike := cutsAlike_of_tokensFrom cut (inPart.trans inQuery)
        obtain ⟨_, again, -⟩ := cutsAlike.again
        obtain ⟨fault, rfl⟩ := exists_grammar_of_pointsInto points again
        exact .intoPart (behindPipe_of_mem cut isPart (inPart.subset List.mem_cons_self))
          (liesAt_of_cutsAlike cut cutsAlike (inPart.trans inQuery).subset) fails points

end Values

/-- If a query fails as a text does, the offset of the error is right for the text that is read.  That
is the query itself unless a search stage cannot be read, so in a query without pipes the error
points at the quote or the token that is at fault, or at the end.  The text of a search stage in
front of the pipes ends at the first of them, and so does the offset that its end is reported at.
Behind a pipe offsets count from where the text of the search begins in the query, or they are
those of a text that is quoted there. -/
theorem offsets_lead_into_the_text_that_is_read {query : String} {range : TimeRange}
    {error : QueryError} (fails : compile .builtin query range = .error (.query error)) :
    Leads query error ∧
      ((∀ token : Token, token.StandsIn query → token.kind ≠ .pipe) → error.PointsInto query) := by
  have leads : Leads query error := by
    rcases exists_fails_of_compile fails with unread | ⟨value, fails⟩
    · exact .toQuery (pointsInto_of_readPipeline unread)
    · obtain ⟨stages, stage, read, member, isSearch, rfl⟩ := fails.isSearch
      obtain ⟨piped, named, cut, rfl, spelled⟩ := exists_piped_of_readPipeline read
      rcases List.mem_append.mp member with inFront | behind
      · split at inFront
        · cases inFront
        · obtain rfl := List.mem_singleton.mp inFront
          exact leads_of_front cut fails
      · obtain ⟨part, isPart, reads⟩ := exists_mem_of_forall₂ spelled behind
        exact leads_of_part cut isPart reads fails
  exact ⟨leads, leads.pointsInto_of_unpiped⟩

/-- A parenthesis at byte 14 is reported at byte 3 of the search that it stands in. -/
theorem parenthesis_behind_a_pipe_is_reported_in_its_part :
    let error : QueryError := .grammar (.unexpected ⟨.openParen, "(", 3⟩)
    compile .builtin "a | search é (" {} = .error (.query error) ∧
      Leads "a | search é (" error := by
  intro error
  have fails : compile .builtin "a | search é (" {} = .error (.query error) := by cbv
  exact ⟨fails, (offsets_lead_into_the_text_that_is_read fails).1⟩

/-- A list that is not closed is reported at the end of a search and not at that of the query. -/
theorem end_of_a_search_is_reported_for_the_end_of_the_query :
    let error : QueryError := .grammar (.expected .listSeparator (.endOfInput (some 7)))
    compile .builtin "| search a IN (1" {} = .error (.query error) ∧
      "| search a IN (1".utf8ByteSize = 16 ∧ ¬error.PointsInto "| search a IN (1" := by
  intro error
  have fails : compile .builtin "| search a IN (1" {} = .error (.query error) := by cbv
  have size : "| search a IN (1".utf8ByteSize = 16 := by decide
  refine ⟨fails, size, fun points => ?_⟩
  rw [QueryError.pointsInto_ended_iff, size] at points
  cases points

end LogQuery.Pipeline
