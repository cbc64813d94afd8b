import LogQuery.Proofs.Query.Stage.Parts

/-!
# Where errors point

A reader either leaves the last of its tokens or stops at one of them or at their end.  So whatever
a text is read as, the error points into this text: at a quote that is never closed, at a token or
at the end.
-/

namespace LogQuery.Query

/-- The error points at one of the tokens, or at their end. -/
inductive GrammarError.PointsAt (tokens : List Token) (finish : Stop) : GrammarError → Prop where
  | unexpected {token : Token} (member : token ∈ tokens) : PointsAt tokens finish (.unexpected token)
  | found {wanted : Wanted} {token : Token} (member : token ∈ tokens) :
      PointsAt tokens finish (.expected wanted (.found token))
  | ended {wanted : Wanted} : PointsAt tokens finish (.expected wanted finish)
  | emptyStage {name : Token} (member : name ∈ tokens) : PointsAt tokens finish (.emptyStage name)

/-- What comes of reading at the front of tokens: the last of them are left, or the error points at
one of them or at their end. -/
inductive StaysWithin {α : Type} (tokens : List Token) (finish : Stop) :
    Except GrammarError (α × List Token) → Prop where
  | leaves {result : α} {left : List Token} (suffix : left <:+ tokens) :
      StaysWithin tokens finish (.ok (result, left))
  | stops {error : GrammarError} (points : error.PointsAt tokens finish) :
      StaysWithin tokens finish (.error error)

/-- The token is one of those that the text is cut into, and at its byte the text goes on with what
is written for it. -/
structure Token.StandsIn (text : String) (token : Token) : Prop where
  isCut : ∃ tokens, tokenize text = .ok tokens ∧ token ∈ beforeEnd tokens
  spelled : ∃ before behind, text = before ++ String.ofList token.written ++ behind ∧
    before.utf8ByteSize = token.offset

/-- The error points into the text: at a quote that is opened there and never closed, at the token
that the message quotes, or, where the message says that the text ends, at the last byte's end. -/
inductive QueryError.PointsInto (text : String) : QueryError → Prop where
  | unterminatedQuote {before rest : String} (opens : OpensUnclosed text before rest) :
      PointsInto text (.unterminatedQuote before.utf8ByteSize)
  | unexpected {token : Token} (stands : token.StandsIn text) :
      PointsInto text (.grammar (.unexpected token))
  | found {wanted : Wanted} {token : Token} (stands : token.StandsIn text) :
      PointsInto text (.grammar (.expected wanted (.found token)))
  | ended {wanted : Wanted} :
      PointsInto text (.grammar (.expected wanted (.endOfInput (some text.utf8ByteSize))))
  | emptyStage {name : Token} (stands : name.StandsIn text) :
      PointsInto text (.grammar (.emptyStage name))

theorem QueryError.pointsInto_ended_iff {text : String} {wanted : Wanted} {offset : Option Nat} :
    PointsInto text (.grammar (.expected wanted (.endOfInput offset))) ↔
      offset = some text.utf8ByteSize := by
  constructor
  · intro points
    cases points with
    | ended => rfl
  · rintro rfl
    exact .ended

/-! ## Readers -/

theorem GrammarError.PointsAt.mono {tokens others : List Token} {finish : Stop}
    {error : GrammarError} (points : error.PointsAt tokens finish) (subset : tokens ⊆ others) :
    error.PointsAt others finish := by
  cases points with
  | unexpected member => exact .unexpected (subset member)
  | found member => exact .found (subset member)
  | ended => exact .ended
  | emptyStage member => exact .emptyStage (subset member)

section Readers

variable {α β : Type} {tokens rest : List Token} {finish : Stop}

theorem StaysWithin.of_suffix {outcome : Except GrammarError (α × List Token)}
    (stays : StaysWithin rest finish outcome) (suffix : rest <:+ tokens) :
    StaysWithin tokens finish outcome := by
  cases stays with
  | leaves left => exact .leaves (left.trans suffix)
  | stops points => exact .stops (points.mono suffix.subset)

/-- Translating what is read leaves the same tokens. -/
theorem StaysWithin.translate {outcome : Except GrammarError (α × List Token)}
    (stays : StaysWithin tokens finish outcome) (translate : α → β) :
    StaysWithin tokens finish (do
      let (result, left) ← outcome
      .ok (translate result, left)) := by
  cases stays with
  | leaves suffix => exact .leaves suffix
  | stops points => exact .stops points

theorem skipBlanks_suffix (tokens : List Token) : skipBlanks tokens <:+ tokens :=
  List.dropWhile_suffix _

theorem readValue_staysWithin (wanted : Wanted) (finish : Stop) (tokens : List Token) :
    StaysWithin tokens finish (readValue wanted finish tokens) := by
  unfold readValue
  split
  · next token rest =>
      split
      · exact .leaves (List.suffix_cons token rest)
      · exact .stops (.found List.mem_cons_self)
  · exact .stops .ended

theorem readListItems_staysWithin (finish : Stop) (state : ListState) (tokens : List Token) :
    StaysWithin tokens finish (readListItems finish state tokens) := by
  fun_induction readListItems finish state tokens with
  | case1 => exact .stops .ended
  | case2 _ token rest _ inductionHypothesis =>
      exact inductionHypothesis.of_suffix (List.suffix_cons token rest)
  | case3 _ token rest => exact .leaves (List.suffix_cons token rest)
  | case4 _ token rest _ _ _ inductionHypothesis =>
      exact (inductionHypothesis.of_suffix (List.suffix_cons token rest)).translate (token.text :: ·)
  | case5 _ token rest _ _ _ _ inductionHypothesis =>
      exact inductionHypothesis.of_suffix (List.suffix_cons token rest)
  | case6 => exact .stops (.found List.mem_cons_self)

theorem readList_staysWithin (finish : Stop) (tokens : List Token) :
    StaysWithin tokens finish (readList finish tokens) := by
  unfold readList
  split
  · next token rest skipped =>
      split
      · exact (readListItems_staysWithin finish .opened rest).of_suffix
          (suffix_of_skipBlanks skipped)
      · have member : token ∈ skipBlanks tokens := skipped ▸ List.mem_cons_self
        exact .stops (.found ((skipBlanks_suffix tokens).subset member))
  · exact .stops .ended

theorem Follower.list_rest_suffix (follows : (Follower.list tokens).rest? = some rest) :
    rest <:+ tokens := by
  unfold Follower.list at follows
  split at follows
  · next token behind skipped =>
      have suffix := suffix_of_skipBlanks skipped
      split at follows
      · obtain rfl := Option.some.inj follows
        exact suffix
      · split at follows
        · next second left skippedAgain =>
            split at follows
            · obtain rfl := Option.some.inj follows
              exact (suffix_of_skipBlanks skippedAgain).trans suffix
            · cases follows
        · cases follows
      · cases follows
  · cases follows

theorem Follower.rest_suffix (follows : (Follower.ofTokens tokens).rest? = some rest) :
    rest <:+ tokens := by
  unfold Follower.ofTokens at follows
  split at follows
  · next token behind =>
      split at follows
      · obtain rfl := Option.some.inj follows
        exact List.suffix_cons token _
      · obtain rfl := Option.some.inj follows
        exact List.suffix_cons token _
      · exact Follower.list_rest_suffix follows
  · cases follows

theorem readWordClause_staysWithin (finish : Stop) (word : String) (tokens : List Token) :
    StaysWithin tokens finish (readWordClause finish word tokens) := by
  unfold readWordClause
  have suffix {rest : List Token} (follows : (Follower.ofTokens tokens).rest? = some rest) :
      rest <:+ tokens := Follower.rest_suffix follows
  split
  case h_1 rest follower =>
    exact ((readValue_staysWithin _ finish _).translate (Clause.equals word)).of_suffix
      ((skipBlanks_suffix rest).trans (suffix (by rw [follower]; rfl)))
  case h_2 rest follower =>
    exact ((readValue_staysWithin _ finish _).translate (Clause.notEquals word)).of_suffix
      ((skipBlanks_suffix rest).trans (suffix (by rw [follower]; rfl)))
  case h_3 rest follower =>
    exact ((readList_staysWithin finish rest).translate (Clause.oneOf word)).of_suffix
      (suffix (by rw [follower]; rfl))
  case h_4 rest follower =>
    exact ((readList_staysWithin finish rest).translate (Clause.noneOf word)).of_suffix
      (suffix (by rw [follower]; rfl))
  case h_5 => exact .leaves List.suffix_rfl

theorem readClause_staysWithin (finish : Stop) (first : Token) (rest : List Token) :
    StaysWithin (first :: rest) finish (readClause finish first rest) := by
  have behind := List.suffix_cons first rest
  unfold readClause
  split
  · exact (readWordClause_staysWithin finish first.text rest).of_suffix behind
  · exact (readWordClause_staysWithin finish first.text rest).of_suffix behind
  · exact ((readValue_staysWithin _ finish _).translate Clause.notFragment).of_suffix
      ((skipBlanks_suffix rest).trans behind)
  · exact .stops (.unexpected List.mem_cons_self)

theorem pointsAt_of_readClauses {error : GrammarError}
    (fails : readClauses finish tokens = .error error) : error.PointsAt tokens finish := by
  -- What a clause leaves are tokens of the search still, so a later error points at one of these.
  fun_induction readClauses finish tokens with
  | case1 => cases fails
  | case2 tokens first rest skipped fault read =>
      obtain rfl := Except.error.inj fails
      have stays := readClause_staysWithin finish first rest
      rw [read, ← skipped] at stays
      cases stays with
      | stops points => exact points.mono (skipBlanks_suffix tokens).subset
  | case3 tokens first rest skipped clause left read inductionHypothesis =>
      have stays := readClause_staysWithin finish first rest
      rw [read, ← skipped] at stays
      cases stays with
      | leaves suffix =>
          have points := inductionHypothesis ((bind_eq_error_iff.mp fails).resolve_right (by simp))
          exact points.mono (suffix.trans (skipBlanks_suffix tokens)).subset

theorem readOption_staysWithin (finish : Stop) (tokens : List Token) :
    StaysWithin tokens finish (readOption finish tokens) := by
  unfold readOption
  split
  · next key rest =>
      split
      · next sign after skipped =>
          split
          · have suffix : skipBlanks after <:+ key :: rest :=
              (skipBlanks_suffix after).trans
                ((suffix_of_skipBlanks skipped).trans (List.suffix_cons key rest))
            exact ((readValue_staysWithin _ finish _).translate
              ((∅ : Fields).insert key.text ·)).of_suffix suffix
          · exact .leaves List.suffix_rfl
      · exact .leaves List.suffix_rfl
  · exact .leaves List.suffix_rfl

theorem pointsAt_of_ofSegment {segment : Segment} {error : GrammarError}
    (fails : Stage.ofSegment segment = .error error) :
    error.PointsAt segment.tokens segment.finish := by
  unfold Stage.ofSegment at fails
  split at fails
  · obtain rfl := Except.error.inj fails
    exact .ended
  · next name rest skipped =>
      have member : name ∈ segment.tokens :=
        (skipBlanks_suffix segment.tokens).subset (skipped ▸ List.mem_cons_self)
      split at fails
      · rcases bind_eq_error_iff.mp fails with fails | ⟨⟨options, left⟩, -, fails⟩
        · have stays := readOption_staysWithin segment.finish (skipBlanks rest)
          rw [fails] at stays
          cases stays with
          | stops points =>
              exact points.mono
                ((skipBlanks_suffix rest).trans (suffix_of_skipBlanks skipped)).subset
        · dsimp only at fails
          split at fails
          · obtain rfl := Except.error.inj fails
            exact .emptyStage member
          · cases fails
      · obtain rfl := Except.error.inj fails
        exact .found member

end Readers

/-! ## Segments -/

/-- A segment ends where the tokens do, or at one of the pipes among them. -/
theorem Segment.within_of_mem_split {finish : Stop} {tokens : List Token} {segment : Segment}
    (member : segment ∈ Segment.split finish tokens) :
    segment.tokens ⊆ tokens ∧
      (segment.finish = finish ∨ ∃ pipe ∈ tokens, segment.finish = .found pipe) := by
  induction tokens generalizing segment with
  | nil =>
      obtain rfl := List.mem_singleton.mp member
      exact ⟨List.Subset.refl [], .inl rfl⟩
  | cons token tokens inductionHypothesis =>
      have further {segment : Segment} (member : segment ∈ Segment.split finish tokens) :
          segment.tokens ⊆ token :: tokens ∧
            (segment.finish = finish ∨ ∃ pipe ∈ token :: tokens, segment.finish = .found pipe) := by
        obtain ⟨subset, ends⟩ := inductionHypothesis member
        refine ⟨List.subset_cons_of_subset token subset, ends.imp_right ?_⟩
        rintro ⟨pipe, isToken, finish_eq⟩
        exact ⟨pipe, List.mem_cons_of_mem token isToken, finish_eq⟩
      rw [Segment.split] at member
      split at member
      · rcases List.mem_cons.mp member with rfl | member
        · exact ⟨List.nil_subset _, .inr ⟨token, List.mem_cons_self, rfl⟩⟩
        · exact further member
      · split at member
        · obtain rfl := List.mem_singleton.mp member
          exact ⟨List.cons_subset_cons token (List.nil_subset tokens), .inl rfl⟩
        · next first others split_eq =>
            rcases List.mem_cons.mp member with rfl | member
            · obtain ⟨subset, ends⟩ := further (split_eq ▸ List.mem_cons_self)
              exact ⟨List.cons_subset.mpr ⟨List.mem_cons_self, subset⟩, ends⟩
            · exact further (split_eq ▸ List.mem_cons_of_mem first member)

theorem pointsAt_of_ofSegments {finish : Stop} {tokens : List Token} {error : GrammarError}
    (fails : Stage.ofSegments (Segment.split finish tokens) = .error error) :
    error.PointsAt tokens finish := by
  generalize split_eq : Segment.split finish tokens = segments at fails
  cases segments with
  | nil => cases fails
  | cons first others =>
      rcases bind_eq_error_iff.mp fails with fails | ⟨stages, -, made⟩
      · obtain ⟨segment, member, fails⟩ := exists_mem_of_mapM_eq_error fails
        obtain ⟨subset, ends⟩ :=
          Segment.within_of_mem_split (split_eq ▸ List.mem_cons_of_mem first member)
        have points := (pointsAt_of_ofSegment fails).mono subset
        rcases ends with ends | ⟨pipe, isToken, ends⟩
        · rwa [ends] at points
        · rw [ends] at points
          cases points with
          | unexpected member => exact .unexpected member
          | found member => exact .found member
          | ended => exact .found isToken
          | emptyStage member => exact .emptyStage member
      · cases made

/-! ## Texts -/

section Texts

variable {text : String} {tokens : List Token}

theorem Token.standsIn_of_mem (cut : tokensFrom 0 text.toList = .ok tokens) {token : Token}
    (member : token ∈ tokens) : token.StandsIn text where
  isCut := ⟨_, tokenize_eq_ok_iff.mpr ⟨tokens, cut, rfl⟩, by rwa [beforeEnd_append_marker cut _ rfl]⟩
  spelled := by
    have run : [token] <:+: tokens := by
      obtain ⟨front, back, rfl⟩ := List.append_of_mem member
      exact ⟨front, back, by simp⟩
    have isPart := (cutsAlike_of_tokensFrom cut run).isPart
    rwa [writtenText, List.flatMap_singleton] at isPart

theorem pointsInto_of_pointsAt (cut : tokensFrom 0 text.toList = .ok tokens) {error : GrammarError}
    (points : error.PointsAt tokens (.endOfInput (some text.utf8ByteSize))) :
    QueryError.PointsInto text (.grammar error) := by
  cases points with
  | unexpected member => exact .unexpected (Token.standsIn_of_mem cut member)
  | found member => exact .found (Token.standsIn_of_mem cut member)
  | ended => exact .ended
  | emptyStage member => exact .emptyStage (Token.standsIn_of_mem cut member)

theorem pointsInto_of_tokenize {error : QueryError} (fails : tokenize text = .error error) :
    error.PointsInto text := by
  obtain ⟨before, rest, opens, rfl⟩ := tokenize_eq_error_iff.mp fails
  exact .unterminatedQuote opens

/-- An error of a search points into the text of the search. -/
theorem pointsInto_of_readSearch {error : QueryError} (fails : Search.read text = .error error) :
    error.PointsInto text := by
  unfold Search.read at fails
  rcases bind_eq_error_iff.mp fails with fails | ⟨all, tokenized, fails⟩
  · exact pointsInto_of_tokenize fails
  · obtain ⟨tokens, cut, rfl⟩ := tokenize_eq_ok_iff.mp tokenized
    obtain ⟨error, unread, rfl⟩ := mapError_eq_error_iff.mp fails
    unfold Search.ofTokens at unread
    rw [beforeEnd_append_marker cut _ rfl, endOffset_append_marker cut _ rfl] at unread
    have unreadClauses := (bind_eq_error_iff.mp unread).resolve_right (by simp)
    exact pointsInto_of_pointsAt cut (pointsAt_of_readClauses unreadClauses)

/-- An error of the stages points into the query. -/
theorem pointsInto_of_readPipeline {error : QueryError} (fails : readPipeline text = .error error) :
    error.PointsInto text := by
  unfold readPipeline at fails
  rcases bind_eq_error_iff.mp fails with fails | ⟨all, tokenized, fails⟩
  · exact pointsInto_of_tokenize fails
  · obtain ⟨tokens, cut, rfl⟩ := tokenize_eq_ok_iff.mp tokenized
    dsimp only at fails
    rw [beforeEnd_append_marker cut _ rfl, endOffset_append_marker cut _ rfl] at fails
    obtain ⟨error, unread, rfl⟩ := mapError_eq_error_iff.mp fails
    exact pointsInto_of_pointsAt cut (pointsAt_of_ofSegments unread)

end Texts

end LogQuery.Query
