import LogQuery.Proofs.Query.Stage.Parts
import Mathlib

/-!
# Queries put together at a pipe

Each stage of a query is read by itself, so a query that is put together at a pipe has the stages of
its two parts.  The one thing that the parts have in common is whether a search stands at the front,
and for this it is enough that there is more than white space before the pipe.
-/

namespace LogQuery.Query

/-! ## Where tokens stand makes no difference -/

/-- Segments of the same tokens, one of them further on in a query. -/
def Segment.FurtherOn (distance : Nat) (segment other : Segment) : Prop :=
  other.tokens = segment.tokens.map (Token.shift distance)

theorem Segment.forall₂_split_map_shift (finish finish' : Stop) (distance : Nat)
    (tokens : List Token) :
    List.Forall₂ (FurtherOn distance) (split finish tokens)
      (split finish' (tokens.map (Token.shift distance))) := by
  induction tokens with
  | nil => exact .cons rfl .nil
  | cons token tokens inductionHypothesis =>
      rw [List.map_cons, split, split]
      by_cases isPipe : (token.kind == .pipe) = true
      · have isPipeShifted : ((token.shift distance).kind == .pipe) = true := isPipe
        rw [if_pos isPipe, if_pos isPipeShifted]
        exact .cons rfl inductionHypothesis
      · have notPipeShifted : ¬((token.shift distance).kind == .pipe) = true := isPipe
        rw [if_neg isPipe, if_neg notPipeShifted]
        generalize split finish tokens = segments at inductionHypothesis
        generalize split finish' _ = others at inductionHypothesis
        cases inductionHypothesis with
        | nil => exact .cons rfl .nil
        | cons same behind => exact .cons (congrArg (token.shift distance :: ·) same) behind

namespace Stage

theorem toOption_ofSegment_map_shift (finish finish' : Stop) (distance : Nat)
    (tokens : List Token) :
    (ofSegment ⟨tokens.map (Token.shift distance), finish'⟩).toOption =
      (ofSegment ⟨tokens, finish⟩).toOption := by
  unfold ofSegment
  dsimp only
  rw [skipBlanks_map_shift]
  cases skipBlanks tokens with
  | nil => rfl
  | cons name rest =>
      rw [List.map_cons]
      dsimp only
      by_cases isWord : (name.kind == .word) = true
      · have isWordShifted : ((name.shift distance).kind == .word) = true := isWord
        rw [if_pos isWord, if_pos isWordShifted, toOption_bind, toOption_bind,
          skipBlanks_map_shift, toOption_readOption_map_shift finish finish']
        cases (readOption finish (skipBlanks rest)).toOption with
        | none => rfl
        | some read =>
            obtain ⟨options, left⟩ := read
            have blank_eq : (left.map (Token.shift distance)).all Token.isBlank =
              left.all Token.isBlank := List.all_map
            dsimp only [Option.map_some, Option.bind_some]
            rw [blank_eq, positionalValue_map_shift]
            split
            · rfl
            · rfl
      · have notWordShifted : ¬((name.shift distance).kind == .word) = true := isWord
        rw [if_neg isWord, if_neg notWordShifted]
        rfl

theorem ofSegment_eq_ok_iff_of_furtherOn {distance : Nat} {segment other : Segment}
    (furtherOn : segment.FurtherOn distance other) (stage : Stage) :
    ofSegment other = .ok stage ↔ ofSegment segment = .ok stage := by
  obtain ⟨tokens, finish⟩ := segment
  obtain ⟨_, finish'⟩ := other
  obtain rfl := furtherOn
  rw [← toOption_eq_some_iff, toOption_ofSegment_map_shift finish, toOption_eq_some_iff]

variable {distance : Nat} {segments others : List Segment} {stages : List Stage}

theorem mapM_ofSegment_eq_ok_iff_of_furtherOn
    (furtherOn : List.Forall₂ (Segment.FurtherOn distance) segments others) :
    others.mapM ofSegment = .ok stages ↔ segments.mapM ofSegment = .ok stages := by
  rw [mapM_eq_ok_iff, mapM_eq_ok_iff]
  induction furtherOn generalizing stages with
  | nil => rfl
  | cons first behind inductionHypothesis =>
      rw [List.forall₂_cons_left_iff, List.forall₂_cons_left_iff]
      simp only [ofSegment_eq_ok_iff_of_furtherOn first, inductionHypothesis]

theorem ofSegments_eq_ok_iff_of_furtherOn
    (furtherOn : List.Forall₂ (Segment.FurtherOn distance) segments others) :
    ofSegments others = .ok stages ↔ ofSegments segments = .ok stages := by
  cases furtherOn with
  | nil => rfl
  | @cons segment other segments others first behind =>
      have leading_eq : leading other others = leading segment segments := by
        have blank_eq : (segment.tokens.map (Token.shift distance)).all Token.isBlank =
          segment.tokens.all Token.isBlank := List.all_map
        have isEmpty_eq : others.isEmpty = segments.isEmpty := by
          cases behind with
          | nil => rfl
          | cons _ _ => rfl
        unfold leading
        rw [first, blank_eq, isEmpty_eq, writtenText_map_shift]
      unfold ofSegments
      rw [bind_eq_ok, bind_eq_ok]
      simp only [mapM_ofSegment_eq_ok_iff_of_furtherOn behind, leading_eq]

end Stage

/-- Neither where tokens stand nor what follows them makes a difference to the stages. -/
theorem Stage.ofSegments_split_map_shift_iff (finish finish' : Stop) (distance : Nat)
    (tokens : List Token) (stages : List Stage) :
    ofSegments (Segment.split finish' (tokens.map (Token.shift distance))) = .ok stages ↔
      ofSegments (Segment.split finish tokens) = .ok stages :=
  ofSegments_eq_ok_iff_of_furtherOn (Segment.forall₂_split_map_shift finish finish' distance tokens)

theorem Stage.ofSegments_split_iff (finish finish' : Stop) (tokens : List Token)
    (stages : List Stage) :
    ofSegments (Segment.split finish' tokens) = .ok stages ↔
      ofSegments (Segment.split finish tokens) = .ok stages := by
  have unmoved : tokens.map (Token.shift 0) = tokens := List.map_id tokens
  rw [← ofSegments_split_map_shift_iff finish finish' 0, unmoved]

/-- What is read from a query does not depend on where it ends. -/
theorem readPipeline_eq_ok_iff {query : String} {stages : List Stage} (finish : Stop) :
    readPipeline query = .ok stages ↔
      ∃ tokens, tokensFrom 0 query.toList = .ok tokens ∧
        Stage.ofSegments (Segment.split finish tokens) = .ok stages := by
  unfold readPipeline
  simp only [bind_eq_ok, mapError_eq_ok_iff, tokenize_eq_ok_iff]
  constructor
  · rintro ⟨_, ⟨tokens, cut, rfl⟩, read⟩
    rw [beforeEnd_append_marker cut _ rfl] at read
    exact ⟨tokens, cut, (Stage.ofSegments_split_iff _ _ tokens stages).mp read⟩
  · rintro ⟨tokens, cut, read⟩
    refine ⟨_, ⟨tokens, cut, rfl⟩, ?_⟩
    rw [beforeEnd_append_marker cut _ rfl]
    exact (Stage.ofSegments_split_iff _ _ tokens stages).mp read

/-! ## Putting tokens together at a pipe -/

theorem Segment.exists_split_eq_cons (finish : Stop) (tokens : List Token) :
    ∃ first others, split finish tokens = first :: others := by
  obtain ⟨piped, -, split_eq⟩ := exists_piped_of_split finish tokens
  obtain ⟨first, others, split_eq, -⟩ := List.map_eq_cons_iff.mp split_eq
  exact ⟨first, others, split_eq⟩

/-- Tokens are cut at a pipe whatever stands on either side. -/
theorem Segment.split_append_pipe {pipe : Token} (isPipe : pipe.kind = .pipe) (finish : Stop)
    (front back : List Token) :
    split finish (front ++ pipe :: back) = split (.found pipe) front ++ split finish back := by
  induction front with
  | nil => exact if_pos (beq_iff_eq.mpr isPipe)
  | cons token front inductionHypothesis =>
      rw [List.cons_append, split, split, inductionHypothesis]
      obtain ⟨first, others, split_eq⟩ := exists_split_eq_cons (.found pipe) front
      rw [split_eq]
      split
      · rfl
      · rfl

/-- With more than white space among the tokens, whether a search stands at the front is settled
before any further segment. -/
theorem Stage.leading_append {finish : Stop} {tokens : List Token} {first : Segment}
    {others : List Segment} (notBlank : ∃ token ∈ tokens, token.isBlank = false)
    (split_eq : Segment.split finish tokens = first :: others) (further : List Segment) :
    leading first (others ++ further) = leading first others := by
  unfold leading
  cases others with
  | cons second others => rfl
  | nil =>
      obtain ⟨piped, rfl, split_eq'⟩ := exists_piped_of_split finish tokens
      rw [split_eq] at split_eq'
      obtain ⟨front_eq, parts_eq⟩ := List.cons.inj split_eq'
      rw [List.map_nil, eq_comm, List.map_eq_nil_iff] at parts_eq
      have shown : first.tokens.all Token.isBlank = false := by
        obtain ⟨token, member, notBlank⟩ := notBlank
        rw [PipedTokens.tokens, parts_eq, List.flatMap_nil, List.append_nil, ← front_eq] at member
        exact List.all_eq_false.mpr ⟨token, member, Bool.eq_false_iff.mp notBlank⟩
      rw [shown]
      rfl

/-- White space in front of the first pipe puts no search there. -/
theorem Stage.ofSegments_split_blank_pipe {blanks : List Token} {pipe : Token}
    (blank : ∀ token ∈ blanks, token.isBlank = true) (isPipe : pipe.kind = .pipe) (finish : Stop)
    (tokens : List Token) :
    ofSegments (Segment.split finish (blanks ++ pipe :: tokens)) =
      (Segment.split finish tokens).mapM ofSegment := by
  have unpiped : ∀ token ∈ blanks, token.kind ≠ .pipe := by
    intro token member isPipeToo
    have isBlank := eq_of_beq (blank token member)
    rw [isPipeToo] at isBlank
    cases isBlank
  obtain ⟨first, others, split_eq⟩ := Segment.exists_split_eq_cons finish tokens
  rw [Segment.split_append_pipe isPipe, Segment.split_of_unpiped unpiped, split_eq]
  have leading_eq : leading ⟨blanks, .found pipe⟩ (first :: others) = [] :=
    if_pos (by rw [List.all_eq_true.mpr blank]; rfl)
  change ((first :: others).mapM ofSegment >>= fun stages =>
    .ok (leading ⟨blanks, .found pipe⟩ (first :: others) ++ stages)) = _
  rw [leading_eq]
  simp only [List.nil_append]
  exact bind_pure _

/-- A pipe at the front puts no search there. -/
theorem Stage.ofSegments_split_pipe {pipe : Token} (isPipe : pipe.kind = .pipe) (finish : Stop)
    (tokens : List Token) :
    ofSegments (Segment.split finish (pipe :: tokens)) =
      (Segment.split finish tokens).mapM ofSegment :=
  ofSegments_split_blank_pipe (List.forall_mem_nil _) isPipe finish tokens

/-- Of tokens that are put together at a pipe both parts are read by themselves. -/
theorem Stage.ofSegments_split_append_iff {tokens others : List Token} {pipe : Token}
    {stages : List Stage} (notBlank : ∃ token ∈ tokens, token.isBlank = false)
    (isPipe : pipe.kind = .pipe) (finish : Stop) (distance : Nat) :
    ofSegments (Segment.split finish (tokens ++ (pipe :: others).map (Token.shift distance))) =
        .ok stages ↔
      ∃ first second, ofSegments (Segment.split finish tokens) = .ok first ∧
        ofSegments (Segment.split finish (pipe :: others)) = .ok second ∧
        stages = first ++ second := by
  have isPipeShifted : (pipe.shift distance).kind = .pipe := isPipe
  have behind (second : List Stage) :
      (Segment.split finish (others.map (Token.shift distance))).mapM ofSegment = .ok second ↔
        ofSegments (Segment.split finish (pipe :: others)) = .ok second := by
    rw [ofSegments_split_pipe isPipe]
    exact mapM_ofSegment_eq_ok_iff_of_furtherOn
      (Segment.forall₂_split_map_shift finish finish distance others)
  obtain ⟨first, rest, split_eq⟩ :=
    Segment.exists_split_eq_cons (.found (pipe.shift distance)) tokens
  simp only [← behind, ← ofSegments_split_iff finish (.found (pipe.shift distance)) tokens]
  rw [List.map_cons, Segment.split_append_pipe isPipeShifted, split_eq, List.cons_append]
  unfold ofSegments
  dsimp only
  rw [leading_append notBlank split_eq, List.mapM_append]
  simp only [bind_eq_ok, Except.ok.injEq]
  constructor
  · rintro ⟨_, ⟨front, readFront, back, readBack, made⟩, rfl⟩
    cases made
    exact ⟨_, back, ⟨front, readFront, rfl⟩, readBack, (List.append_assoc _ _ _).symm⟩
  · rintro ⟨_, back, ⟨front, readFront, rfl⟩, readBack, rfl⟩
    exact ⟨_, ⟨front, readFront, back, readBack, rfl⟩, (List.append_assoc _ _ _).symm⟩

/-! ## Putting texts together at a pipe -/

theorem exists_tokensFrom_pipe {further : String} {tokens : List Token}
    (cut : tokensFrom 0 ("|" ++ further).toList = .ok tokens) :
    ∃ pipe others, pipe.kind = .pipe ∧ tokens = pipe :: others := by
  rw [String.toList_append] at cut
  obtain ⟨kind, inside, left, others, reads, -, rfl⟩ := tokensFrom_cons_eq_ok_iff.mp cut
  have read := readToken_eq_some_iff.mpr reads
  cases read
  exact ⟨_, others, rfl, rfl⟩

/-- The tokens of a query that is put together at a pipe are those of its parts. -/
theorem tokensFrom_append_pipe_eq_ok_iff {text further : String} {tokens all : List Token}
    (cut : tokensFrom 0 text.toList = .ok tokens) :
    tokensFrom 0 (text ++ ("|" ++ further)).toList = .ok all ↔
      ∃ pipe others, pipe.kind = .pipe ∧
        tokensFrom 0 ("|" ++ further).toList = .ok (pipe :: others) ∧
        all = tokens ++ (pipe :: others).map (Token.shift (byteLength text.toList)) := by
  have piped_eq : ("|" ++ further).toList = '|' :: further.toList := String.toList_append
  have breaks : BreaksWord text.toList ("|" ++ further).toList :=
    piped_eq ▸ breaksWord_pipe text.toList further.toList
  rw [String.toList_append, tokensFrom_append_eq_ok_iff cut fun _ _ _ => breaks]
  constructor
  · rintro ⟨others, furtherCut, rfl⟩
    obtain ⟨pipe, others, isPipe, rfl⟩ := exists_tokensFrom_pipe furtherCut
    exact ⟨pipe, others, isPipe, furtherCut, rfl⟩
  · rintro ⟨pipe, others, -, furtherCut, rfl⟩
    exact ⟨pipe :: others, furtherCut, rfl⟩

/-- Two parts of a query that can be read make a query that can be read. -/
theorem readPipeline_append_pipe {text further : String} {tokens : List Token}
    {first second : List Stage} (cut : tokensFrom 0 text.toList = .ok tokens)
    (notBlank : ∃ token ∈ tokens, token.isBlank = false)
    (readFirst : readPipeline text = .ok first)
    (readSecond : readPipeline ("|" ++ further) = .ok second) :
    readPipeline (text ++ ("|" ++ further)) = .ok (first ++ second) := by
  let finish : Stop := .endOfInput none
  obtain ⟨tokens', cut', readFirst⟩ := (readPipeline_eq_ok_iff finish).mp readFirst
  obtain rfl := Except.ok.inj (cut.symm.trans cut')
  obtain ⟨others, furtherCut, readSecond⟩ := (readPipeline_eq_ok_iff finish).mp readSecond
  obtain ⟨pipe, others, isPipe, rfl⟩ := exists_tokensFrom_pipe furtherCut
  have joined := (tokensFrom_append_pipe_eq_ok_iff cut).mpr ⟨pipe, others, isPipe, furtherCut, rfl⟩
  refine (readPipeline_eq_ok_iff finish).mpr ⟨_, joined, ?_⟩
  exact (Stage.ofSegments_split_append_iff notBlank isPipe finish _).mpr
    ⟨first, second, readFirst, readSecond, rfl⟩

/-- White space before a part of a query that begins with a pipe does not show. -/
theorem readPipeline_blank_append_pipe {text further : String} {tokens : List Token}
    {stages : List Stage} (cut : tokensFrom 0 text.toList = .ok tokens)
    (blank : ∀ token ∈ tokens, token.isBlank = true)
    (read : readPipeline ("|" ++ further) = .ok stages) :
    readPipeline (text ++ ("|" ++ further)) = .ok stages := by
  let finish : Stop := .endOfInput none
  obtain ⟨all, furtherCut, read⟩ := (readPipeline_eq_ok_iff finish).mp read
  obtain ⟨pipe, others, isPipe, rfl⟩ := exists_tokensFrom_pipe furtherCut
  have joined := (tokensFrom_append_pipe_eq_ok_iff cut).mpr ⟨pipe, others, isPipe, furtherCut, rfl⟩
  have isPipeShifted (distance : Nat) : (pipe.shift distance).kind = .pipe := isPipe
  refine (readPipeline_eq_ok_iff finish).mpr ⟨_, joined, ?_⟩
  rw [List.map_cons, Stage.ofSegments_split_blank_pipe blank (isPipeShifted _)]
  rw [Stage.ofSegments_split_pipe isPipe] at read
  exact (Stage.mapM_ofSegment_eq_ok_iff_of_furtherOn
    (Segment.forall₂_split_map_shift finish finish _ others)).mpr read

/-- The stages of a query and of one behind it that begins with a pipe stand one behind the other,
unless there is nothing but white space in the first one: then it has no stage any more. -/
theorem exists_readPipeline_append {text further : String} {first second : List Stage}
    (readFirst : readPipeline text = .ok first)
    (readSecond : readPipeline ("|" ++ further) = .ok second) :
    ∃ kept, (kept = first ∨ kept = []) ∧
      readPipeline (text ++ ("|" ++ further)) = .ok (kept ++ second) := by
  obtain ⟨tokens, cut, -⟩ := (readPipeline_eq_ok_iff (.endOfInput none)).mp readFirst
  by_cases blank : ∀ token ∈ tokens, token.isBlank = true
  · exact ⟨[], .inr rfl, readPipeline_blank_append_pipe cut blank readSecond⟩
  · simp only [not_forall, Bool.not_eq_true] at blank
    obtain ⟨token, member, notBlank⟩ := blank
    exact ⟨first, .inl rfl,
      readPipeline_append_pipe cut ⟨token, member, notBlank⟩ readFirst readSecond⟩

/-- A query that is put together at a pipe, with more than white space before it, can be read
exactly if both parts can be read by themselves, and its stages are theirs. -/
theorem query_is_read_in_parts {text : String} {tokens : List Token}
    (tokenized : tokenize text = .ok tokens)
    (notBlank : ∃ token ∈ beforeEnd tokens, token.isBlank = false) (further : String)
    (stages : List Stage) :
    readPipeline (text ++ "|" ++ further) = .ok stages ↔
      ∃ first second, readPipeline text = .ok first ∧
        readPipeline ("|" ++ further) = .ok second ∧ stages = first ++ second := by
  obtain ⟨cut, cutEq, rfl⟩ := tokenize_eq_ok_iff.mp tokenized
  rw [beforeEnd_append_marker cutEq _ rfl] at notBlank
  rw [String.append_assoc]
  constructor
  · intro read
    let finish : Stop := .endOfInput none
    obtain ⟨all, joined, read⟩ := (readPipeline_eq_ok_iff finish).mp read
    obtain ⟨pipe, others, isPipe, furtherCut, rfl⟩ :=
      (tokensFrom_append_pipe_eq_ok_iff cutEq).mp joined
    obtain ⟨first, second, readFirst, readSecond, rfl⟩ :=
      (Stage.ofSegments_split_append_iff notBlank isPipe finish _).mp read
    exact ⟨first, second, (readPipeline_eq_ok_iff finish).mpr ⟨cut, cutEq, readFirst⟩,
      (readPipeline_eq_ok_iff finish).mpr ⟨_, furtherCut, readSecond⟩, rfl⟩
  · rintro ⟨first, second, readFirst, readSecond, rfl⟩
    exact readPipeline_append_pipe cutEq notBlank readFirst readSecond

/-- The pipe in quotes belongs to the first part. -/
theorem quoted_pipe_joins_no_parts :
    (∃ tokens, tokenize "a \"|\"" = .ok tokens ∧
      ∃ token ∈ beforeEnd tokens, token.isBlank = false) ∧
    readPipeline ("a \"|\"" ++ "|" ++ " table b") =
      .ok [.search "a \"|\"", ⟨"table", ∅, "b"⟩] := by
  have tokenized : tokenize "a \"|\"" =
      .ok [⟨.word, "a", 0⟩, ⟨.blank, " ", 1⟩, ⟨.quoted, "|", 2⟩, ⟨.endOfInput, "", 5⟩] := by
    cbv
  have notBlank : ∃ token ∈ beforeEnd [⟨.word, "a", 0⟩, ⟨.blank, " ", 1⟩, ⟨.quoted, "|", 2⟩,
      ⟨.endOfInput, "", 5⟩], token.isBlank = false :=
    ⟨⟨.word, "a", 0⟩, List.mem_cons_self, rfl⟩
  have readFirst : readPipeline "a \"|\"" = .ok [.search "a \"|\""] := by cbv
  have readSecond : readPipeline ("|" ++ " table b") = .ok [⟨"table", ∅, "b"⟩] := by cbv
  exact ⟨⟨_, tokenized, notBlank⟩, (query_is_read_in_parts tokenized notBlank " table b" _).mpr
    ⟨_, _, readFirst, readSecond, rfl⟩⟩

end LogQuery.Query
