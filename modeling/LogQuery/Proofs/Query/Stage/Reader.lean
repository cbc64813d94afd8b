import LogQuery.Proofs.Query.Search.Reader
import LogQuery.Proofs.Query.Token.Partition
import LogQuery.Query.Stage.Reader

/-!
# Searches as stages

A text without pipes is the value of a search stage.  If the stage is named as well, the text is
what stands behind the name: a word, an equals sign and a value at its front are an option, a quoted
text by itself loses its quotes, and anything else is passed on as it is written but without the
white space at either end.
-/

namespace LogQuery.Query

/-- The tokens begin with an option: a word, an equals sign and a value, perhaps with white space
before each. -/
structure BeginsWithOption (tokens : List Token) (key value : Token) (left : List Token) : Prop where
  isWord : key.kind = .word
  isValue : value.isValue = true
  spelled : ∃ sign rest after, skipBlanks tokens = key :: rest ∧ skipBlanks rest = sign :: after ∧
    sign.kind = .equals ∧ skipBlanks after = value :: left

/-- The tokens are a quoted text by itself, perhaps with white space around it. -/
def IsQuotation (tokens : List Token) (quoted : Token) : Prop :=
  quoted.kind = .quoted ∧ trimBlanks tokens = [quoted]

/-! ## White space at the ends -/

theorem exists_skipBlanks_eq_append (tokens : List Token) :
    ∃ blanks, skipBlanks tokens = trimBlanks tokens ++ blanks ∧
      ∀ token ∈ blanks, token.isBlank = true := by
  refine ⟨(skipBlanks tokens).rtakeWhile Token.isBlank, ?_, ?_⟩
  · exact List.rdropWhile_append_rtakeWhile.symm
  · intro token member
    exact List.mem_rtakeWhile_imp member

theorem skipBlanks_map_shift (distance : Nat) (tokens : List Token) :
    skipBlanks (tokens.map (Token.shift distance)) =
      (skipBlanks tokens).map (Token.shift distance) :=
  List.dropWhile_map

theorem trimBlanks_map_shift (distance : Nat) (tokens : List Token) :
    trimBlanks (tokens.map (Token.shift distance)) =
      (trimBlanks tokens).map (Token.shift distance) := by
  simp only [trimBlanks, skipBlanks_map_shift, ← List.map_reverse]

theorem trimBlanks_skipBlanks (tokens : List Token) :
    trimBlanks (skipBlanks tokens) = trimBlanks tokens := by
  unfold trimBlanks
  rw [skipBlanks_skipBlanks]

theorem exists_mem_skipBlanks {tokens : List Token}
    (notBlank : ∃ token ∈ tokens, token.isBlank = false) :
    ∃ token ∈ skipBlanks tokens, token.isBlank = false := by
  cases skipped : skipBlanks tokens with
  | nil =>
      obtain ⟨token, member, notBlank⟩ := notBlank
      rw [skipBlanks_eq_nil_iff.mp skipped token member] at notBlank
      cases notBlank
  | cons first rest =>
      exact ⟨first, List.mem_cons_self, isBlank_eq_false_of_skipBlanks skipped⟩

theorem mem_skipBlanks {tokens : List Token} {token : Token} (member : token ∈ tokens)
    (notBlank : token.isBlank = false) : token ∈ skipBlanks tokens := by
  rw [← List.takeWhile_append_dropWhile (p := Token.isBlank) (l := tokens), List.mem_append]
    at member
  refine member.resolve_left fun blank => ?_
  rw [List.mem_takeWhile_imp blank] at notBlank
  cases notBlank

theorem trimBlanks_append_of_compact {front back : List Token} (notEmpty : back ≠ [])
    (compact : ∀ token ∈ back, token.isBlank = false) :
    trimBlanks (front ++ back) = skipBlanks (front ++ back) := by
  obtain ⟨between, last, rfl⟩ := (List.eq_nil_or_concat' back).resolve_left notEmpty
  have notBlank := compact last (List.mem_append_right between List.mem_cons_self)
  have skipped : skipBlanks (front ++ (between ++ [last])) =
      skipBlanks (front ++ between) ++ [last] := by
    rw [← List.append_assoc, skipBlanks, List.dropWhile_append]
    split
    · next empty =>
        rw [skipBlanks, List.isEmpty_iff.mp empty]
        exact skipBlanks_of_not_isBlank notBlank []
    · rfl
  rw [trimBlanks, skipped, List.reverse_append, List.reverse_singleton, List.singleton_append,
    skipBlanks_of_not_isBlank notBlank, List.reverse_cons, List.reverse_reverse]

theorem writtenText_map_shift (distance : Nat) (tokens : List Token) :
    writtenText (tokens.map (Token.shift distance)) = writtenText tokens := by
  unfold writtenText
  rw [List.flatMap_map]
  rfl

/-- A positional value does not depend on where it stands. -/
theorem positionalValue_map_shift (distance : Nat) (tokens : List Token) :
    positionalValue (tokens.map (Token.shift distance)) = positionalValue tokens := by
  unfold positionalValue
  rw [trimBlanks_map_shift]
  match trimBlanks tokens with
  | [] => rfl
  | [token] =>
      exact congrArg (if token.isValue then token.text else ·)
        (writtenText_map_shift distance [token])
  | first :: second :: rest => exact writtenText_map_shift distance (first :: second :: rest)

theorem positionalValue_skipBlanks (tokens : List Token) :
    positionalValue (skipBlanks tokens) = positionalValue tokens := by
  unfold positionalValue
  rw [trimBlanks_skipBlanks]

theorem IsQuotation.positionalValue_eq {tokens : List Token} {quoted : Token}
    (isQuotation : IsQuotation tokens quoted) : positionalValue tokens = quoted.text := by
  unfold positionalValue
  rw [isQuotation.2]
  exact if_pos (by rw [Token.isValue, isQuotation.1]; rfl)

theorem IsQuotation.not_beginsWithOption {tokens left : List Token} {quoted key value : Token}
    (isQuotation : IsQuotation tokens quoted) : ¬BeginsWithOption tokens key value left := by
  rintro ⟨isWord, -, sign, rest, after, skipped, -⟩
  obtain ⟨blanks, skipped', -⟩ := exists_skipBlanks_eq_append tokens
  rw [isQuotation.2, skipped] at skipped'
  obtain ⟨rfl, -⟩ := List.cons.inj skipped'
  rw [isQuotation.1] at isWord
  cases isWord

/-- What is not just a quoted text is passed on as it is written. -/
theorem positionalValue_eq_writtenText {tokens : List Token}
    (notQuotation : ∀ quoted, ¬IsQuotation tokens quoted) :
    positionalValue tokens = writtenText (trimBlanks tokens) := by
  unfold positionalValue
  split
  · next trimmed => rw [trimmed]; rfl
  · next token trimmed =>
      rw [trimmed]
      split
      · have notQuoted : token.kind ≠ .quoted := fun isQuoted =>
          notQuotation token ⟨isQuoted, trimmed⟩
        rw [writtenText, List.flatMap_singleton, Token.written_eq_toList notQuoted,
          String.ofList_toList]
      · rfl
  · rfl

/-- A search that can be read is read alike without the white space at its ends, and from any part
of a query. -/
theorem Search.read_writtenText_trimBlanks {offset : Nat} {text : List Char} {tokens : List Token}
    {finish : Stop} {clauses : List Clause} (cut : tokensFrom offset text = .ok tokens)
    (read : readClauses finish tokens = .ok clauses) :
    Search.read (writtenText (trimBlanks tokens)) = .ok (Search.ofClauses clauses) := by
  obtain ⟨blanks, skipped, blank⟩ := exists_skipBlanks_eq_append tokens
  have skippedCut : tokensFrom offset text =
      .ok (tokens.takeWhile Token.isBlank ++ (trimBlanks tokens ++ blanks)) := by
    rw [cut, ← skipped]
    exact congrArg Except.ok List.takeWhile_append_dropWhile.symm
  obtain ⟨others, trimmedCut, trimmed_eq⟩ :=
    exists_tokensFrom_zero (tokensFrom_front_of_append (tokensFrom_of_append skippedCut))
  generalize offset + byteLength _ = further at trimmed_eq
  refine (Search.read_eq_ok_iff finish).mpr ⟨others, clauses, ?_, ?_, rfl⟩
  · rwa [writtenText, String.toList_ofList]
  · have alike := ReadsAlike.map_shift_append others further blank
    rw [← trimmed_eq, ← skipped] at alike
    exact readClauses_of_alike finish alike ((readClauses_skipBlanks finish tokens clauses).mpr read)

/-! ## A text without pipes -/

theorem Segment.split_of_unpiped {tokens : List Token}
    (unpiped : ∀ token ∈ tokens, token.kind ≠ .pipe) (finish : Stop) :
    Segment.split finish tokens = [⟨tokens, finish⟩] := by
  induction tokens with
  | nil => rfl
  | cons token tokens inductionHypothesis =>
      have notPipe := unpiped token List.mem_cons_self
      rw [Segment.split, if_neg (by simpa using notPipe),
        inductionHypothesis fun other member => unpiped other (List.mem_cons_of_mem _ member)]

/-- A text without pipes is the value of a search stage, as it is written. -/
theorem readPipeline_of_unpiped {text : String} {tokens : List Token}
    (cut : tokensFrom 0 text.toList = .ok tokens)
    (unpiped : ∀ token ∈ tokens, token.kind ≠ .pipe) :
    readPipeline text = .ok [Stage.search text] := by
  unfold readPipeline
  rw [tokenize_eq_ok_iff.mpr ⟨tokens, cut, rfl⟩]
  dsimp only [bind, Except.bind]
  rw [beforeEnd_append_marker cut _ rfl, Segment.split_of_unpiped unpiped]
  have written : writtenText tokens = text := by
    rw [writtenText, flatMap_written_of_tokensFrom cut, String.ofList_toList]
  have leading_eq (finish : Stop) : Stage.leading ⟨tokens, finish⟩ [] = [Stage.search text] := by
    rw [Stage.leading, written, List.isEmpty_nil, Bool.not_true, Bool.and_false]
    rfl
  unfold Stage.ofSegments
  dsimp only
  rw [leading_eq]
  rfl

/-! ## A text behind the name of the stage -/

/-- The query that names the search stage in front of a text. -/
def explicitSearch (text : String) : String := "| search " ++ text

/-- The query that names a stage in front of a text. -/
def namedStage (name text : String) : String := "| " ++ name ++ " " ++ text

theorem explicitSearch_eq (text : String) : explicitSearch text = namedStage searchName text :=
  congrArg (· ++ text) (by decide : "| search " = "| " ++ searchName ++ " ")

/-- A text that is cut into one word and nothing else. -/
def IsWord (text : String) : Prop :=
  ∃ word, (tokenize text).map beforeEnd = .ok [word] ∧ word.kind = .word

theorem isWord_iff {text : String} :
    IsWord text ↔ ReadsTo text.toList .word text.toList [] := by
  constructor
  · rintro ⟨word, cut, kind_eq⟩
    obtain ⟨_, tokenized, single⟩ := map_eq_ok_iff.mp cut
    obtain ⟨tokens, cut, rfl⟩ := tokenize_eq_ok_iff.mp tokenized
    rw [beforeEnd_append_marker cut _ rfl] at single
    subst single
    obtain ⟨kind, inside, left, rfl, reads, nothingLeft⟩ := exists_of_tokensFrom_cons cut
    obtain rfl := eq_nil_of_tokensFrom_nil nothingLeft
    obtain rfl : kind = .word := kind_eq
    have written := reads.written_append 0
    rw [written_of_ne_quoted (by decide), List.append_nil] at written
    rwa [written] at reads
  · intro reads
    have cut : tokensFrom 0 text.toList = .ok [⟨.word, String.ofList text.toList, 0⟩] :=
      reads.tokensFrom (tokensFrom_nil_eq_ok_iff.mpr rfl)
    have single := beforeEnd_append_marker cut ⟨.endOfInput, "", text.utf8ByteSize⟩ rfl
    exact ⟨_, map_eq_ok_iff.mpr ⟨_, tokenize_eq_ok_iff.mpr ⟨_, cut, rfl⟩, single⟩, rfl⟩

theorem isWord_searchName : IsWord searchName :=
  isWord_iff.mpr (.word rfl (by decide))

theorem exists_tokensFrom_namedStage {name text : String} {tokens : List Token}
    (isWord : IsWord name) (cut : tokensFrom 0 text.toList = .ok tokens) :
    ∃ offset distance, tokensFrom 0 (namedStage name text).toList =
      .ok (⟨.pipe, "|", 0⟩ :: ⟨.blank, " ", 1⟩ :: ⟨.word, name, 2⟩ :: ⟨.blank, " ", offset⟩ ::
        tokens.map (Token.shift distance)) := by
  have text_eq : (namedStage name text).toList =
      '|' :: ' ' :: (name.toList ++ ' ' :: text.toList) := by
    simp [namedStage]
  have named : ReadsTo (name.toList ++ ' ' :: text.toList) .word name.toList
      (' ' :: text.toList) :=
    (isWord_iff.mp isWord).append fun _ _ => breaksWord_blank rfl _ _
  have furtherOn (distance : Nat) :
      tokensFrom distance text.toList = .ok (tokens.map (Token.shift distance)) := by
    rw [← tokensFrom_add cut distance, Nat.zero_add]
  have namedCut : tokensFrom 2 (name.toList ++ ' ' :: text.toList) =
      .ok (⟨.word, String.ofList name.toList, 2⟩ :: ⟨.blank, " ", _⟩ ::
        tokens.map (Token.shift _)) :=
    named.tokensFrom ((ReadsTo.blank rfl).tokensFrom (furtherOn _))
  rw [String.ofList_toList] at namedCut
  rw [text_eq]
  exact ⟨_, _, (ReadsTo.pipe _).tokensFrom ((ReadsTo.blank rfl).tokensFrom namedCut)⟩

theorem toOption_readValue_map_shift (wanted : Wanted) (finish finish' : Stop) (distance : Nat)
    (tokens : List Token) :
    (readValue wanted finish' (tokens.map (Token.shift distance))).toOption =
      (readValue wanted finish tokens).toOption.map fun (value, left) =>
        (value, left.map (Token.shift distance)) := by
  cases tokens with
  | nil => rfl
  | cons value left =>
      rw [List.map_cons, readValue, readValue]
      dsimp only
      by_cases isValue : value.isValue = true
      · have isValueShifted : (value.shift distance).isValue = true := isValue
        rw [if_pos isValue, if_pos isValueShifted]
        rfl
      · have notValueShifted : ¬(value.shift distance).isValue = true := isValue
        rw [if_neg isValue, if_neg notValueShifted]
        rfl

/-- An option is read alike further on. -/
theorem toOption_readOption_map_shift (finish finish' : Stop) (distance : Nat)
    (tokens : List Token) :
    (readOption finish' (tokens.map (Token.shift distance))).toOption =
      (readOption finish tokens).toOption.map fun (options, left) =>
        (options, left.map (Token.shift distance)) := by
  unfold readOption
  cases tokens with
  | nil => rfl
  | cons key rest =>
      rw [List.map_cons]
      dsimp only
      rw [skipBlanks_map_shift]
      cases skipBlanks rest with
      | nil => rfl
      | cons sign after =>
          rw [List.map_cons]
          dsimp only
          by_cases begins : (key.kind == .word && sign.kind == .equals) = true
          · have beginsShifted :
                ((key.shift distance).kind == .word && (sign.shift distance).kind == .equals) =
                  true := begins
            rw [if_pos begins, if_pos beginsShifted, toOption_bind, toOption_bind,
              skipBlanks_map_shift, Token.text_shift, toOption_readValue_map_shift _ finish finish']
            cases (readValue (.optionValue key.text) finish (skipBlanks after)).toOption with
            | none => rfl
            | some read => rfl
          · have plainShifted :
                ¬((key.shift distance).kind == .word && (sign.shift distance).kind == .equals) =
                  true := begins
            rw [if_neg begins, if_neg plainShifted]
            rfl

theorem readOption_map_shift_eq_ok {finish : Stop} {tokens left : List Token} {options : Fields}
    (read : readOption finish tokens = .ok (options, left)) (finish' : Stop) (distance : Nat) :
    readOption finish' (tokens.map (Token.shift distance)) =
      .ok (options, left.map (Token.shift distance)) := by
  rw [← toOption_eq_some_iff, toOption_readOption_map_shift finish finish', read]
  rfl

theorem BeginsWithOption.readOption_eq {tokens left : List Token} {key value : Token}
    (begins : BeginsWithOption tokens key value left) (finish : Stop) :
    readOption finish (skipBlanks tokens) =
      .ok ((∅ : Fields).insert key.text value.text, left) := by
  obtain ⟨sign, rest, after, skipped, goesOn, isSign, skippedAgain⟩ := begins.spelled
  have readText : readValue (.optionValue key.text) finish (skipBlanks after) =
      .ok (value.text, left) :=
    readValue_eq_ok_iff.mpr ⟨value, skippedAgain, begins.isValue, rfl⟩
  rw [skipped, readOption]
  dsimp only
  rw [goesOn]
  dsimp only
  rw [if_pos (by simp [begins.isWord, isSign]), readText]
  rfl

/-- A word and an equals sign begin an option, if a value follows. -/
theorem readOption_key_sign_eq_ok_iff {finish : Stop} {key sign : Token} {after left : List Token}
    {options : Fields} (isWord : key.kind = .word) (isSign : sign.kind = .equals) :
    readOption finish (key :: sign :: after) = .ok (options, left) ↔
      ∃ value, skipBlanks after = value :: left ∧ value.isValue = true ∧
        options = (∅ : Fields).insert key.text value.text := by
  have notBlank := Token.isBlank_eq_false_of_kind isSign (by decide)
  rw [readOption]
  dsimp only
  rw [skipBlanks_of_not_isBlank notBlank]
  dsimp only
  rw [if_pos (by simp [isWord, isSign]), bind_eq_ok]
  constructor
  · rintro ⟨⟨text, left'⟩, readText, made⟩
    obtain ⟨value, skipped, isValue, rfl⟩ := readValue_eq_ok_iff.mp readText
    obtain ⟨rfl, rfl⟩ := Prod.mk.inj (Except.ok.inj made)
    exact ⟨value, skipped, isValue, rfl⟩
  · rintro ⟨value, skipped, isValue, rfl⟩
    exact ⟨(value.text, left), readValue_eq_ok_iff.mpr ⟨value, skipped, isValue, rfl⟩, rfl⟩

/-- A search that begins with no option has none behind the name of its stage either. -/
theorem readOption_of_not_beginsWithOption {tokens : List Token} {finish : Stop}
    {clauses : List Clause} (read : readClauses finish tokens = .ok clauses)
    (plain : ∀ key value left, ¬BeginsWithOption tokens key value left) :
    readOption finish (skipBlanks tokens) = .ok (∅, skipBlanks tokens) := by
  unfold readOption
  cases skipped : skipBlanks tokens with
  | nil => rfl
  | cons key rest =>
      dsimp only
      cases goesOn : skipBlanks rest with
      | nil => rfl
      | cons sign after =>
          refine if_neg fun begins => ?_
          rw [Bool.and_eq_true, beq_iff_eq, beq_iff_eq] at begins
          obtain ⟨value, left, skippedAgain, isValue⟩ :=
            exists_value_of_readClauses read skipped begins.1 goesOn begins.2
          exact plain key value left
            ⟨begins.1, isValue, sign, rest, after, skipped, goesOn, begins.2, skippedAgain⟩

theorem Stage.ofSegment_eq_ok {tokens rest left : List Token} {finish : Stop} {name : Token}
    {options : Fields} (skipped : skipBlanks tokens = name :: rest) (isWord : name.kind = .word)
    (read : readOption finish (skipBlanks rest) = .ok (options, left))
    (filled : (options.isEmpty && left.all Token.isBlank) = false) :
    Stage.ofSegment ⟨tokens, finish⟩ =
      .ok { name := name.text, options, value := positionalValue left } := by
  unfold Stage.ofSegment
  rw [skipped]
  dsimp only
  rw [if_pos (by simp [isWord]), read]
  dsimp only [bind, Except.bind]
  rw [filled]
  rfl

theorem Stage.exists_option_of_ofSegment {tokens rest : List Token} {finish : Stop} {name : Token}
    {stage : Stage} (skipped : skipBlanks tokens = name :: rest) (isWord : name.kind = .word)
    (read : Stage.ofSegment ⟨tokens, finish⟩ = .ok stage) :
    ∃ options left, readOption finish (skipBlanks rest) = .ok (options, left) ∧
      (options.isEmpty && left.all Token.isBlank) = false ∧
      stage = { name := name.text, options, value := positionalValue left } := by
  unfold Stage.ofSegment at read
  rw [skipped] at read
  dsimp only at read
  rw [if_pos (by simp [isWord])] at read
  obtain ⟨⟨options, left⟩, readRest, made⟩ := bind_eq_ok.mp read
  dsimp only at made
  split at made
  · cases made
  · next filled => exact ⟨options, left, readRest, by simpa using filled, (Except.ok.inj made).symm⟩

/-- A query of one named stage is read as the tokens behind its pipe are. -/
theorem exists_readPipeline_namedStage_eq {name text : String} {tokens : List Token}
    (isWord : IsWord name) (cut : tokensFrom 0 text.toList = .ok tokens)
    (unpiped : ∀ token ∈ tokens, token.kind ≠ .pipe) :
    ∃ offset distance finish, readPipeline (namedStage name text) =
      ((Stage.ofSegment ⟨⟨.blank, " ", 1⟩ :: ⟨.word, name, 2⟩ :: ⟨.blank, " ", offset⟩ ::
        tokens.map (Token.shift distance), finish⟩).map ([·])).mapError .grammar := by
  obtain ⟨offset, distance, namedCut⟩ := exists_tokensFrom_namedStage isWord cut
  have namedUnpiped : ∀ token ∈ ⟨.blank, " ", 1⟩ :: ⟨.word, name, 2⟩ :: ⟨.blank, " ", offset⟩ ::
      tokens.map (Token.shift distance), token.kind ≠ .pipe := by
    simpa using unpiped
  unfold readPipeline
  rw [tokenize_eq_ok_iff.mpr ⟨_, namedCut, rfl⟩]
  dsimp only [bind, Except.bind]
  rw [beforeEnd_append_marker namedCut _ rfl, Segment.split, if_pos (by rfl),
    Segment.split_of_unpiped namedUnpiped]
  generalize Stop.endOfInput _ = finish
  refine ⟨offset, distance, finish, congrArg (Except.mapError QueryError.grammar) ?_⟩
  rw [Stage.ofSegments, List.mapM_cons, List.mapM_nil]
  cases Stage.ofSegment _ with
  | error error => rfl
  | ok stage => rfl

/-- Behind the name of the stage stand an option, perhaps, and a positional value. -/
theorem readPipeline_namedStage_eq_ok_iff {name text : String} {tokens : List Token}
    {stages : List Stage} (isWord : IsWord name) (cut : tokensFrom 0 text.toList = .ok tokens)
    (unpiped : ∀ token ∈ tokens, token.kind ≠ .pipe) (finish : Stop) :
    readPipeline (namedStage name text) = .ok stages ↔
      ∃ options left, readOption finish (skipBlanks tokens) = .ok (options, left) ∧
        (options.isEmpty = false ∨ ∃ token ∈ left, token.isBlank = false) ∧
        stages = [{ name, options, value := positionalValue left }] := by
  obtain ⟨offset, distance, finish', read_eq⟩ :=
    exists_readPipeline_namedStage_eq isWord cut unpiped
  have named : skipBlanks (⟨.blank, " ", 1⟩ :: ⟨.word, name, 2⟩ :: ⟨.blank, " ", offset⟩ ::
      tokens.map (Token.shift distance)) = ⟨.word, name, 2⟩ :: ⟨.blank, " ", offset⟩ ::
        tokens.map (Token.shift distance) := rfl
  have behind : skipBlanks (⟨.blank, " ", offset⟩ :: tokens.map (Token.shift distance)) =
      (skipBlanks tokens).map (Token.shift distance) :=
    skipBlanks_map_shift distance tokens
  rw [read_eq, mapError_eq_ok_iff, map_eq_ok_iff]
  constructor
  · rintro ⟨stage, read, rfl⟩
    obtain ⟨options, shifted, readShifted, filled, rfl⟩ :=
      Stage.exists_option_of_ofSegment named rfl read
    have readBack := toOption_readOption_map_shift finish finish' distance (skipBlanks tokens)
    rw [← behind, readShifted] at readBack
    obtain ⟨⟨_, left⟩, readLeft, same⟩ := Option.map_eq_some_iff.mp readBack.symm
    obtain ⟨rfl, rfl⟩ := Prod.mk.inj same
    refine ⟨_, left, toOption_eq_some_iff.mp readLeft, ?_, ?_⟩
    · exact (Bool.and_eq_false_iff.mp filled).imp_right fun visible => by simpa using visible
    · rw [positionalValue_map_shift]
  · rintro ⟨options, left, read, filled, rfl⟩
    have stillFilled :
        (options.isEmpty && (left.map (Token.shift distance)).all Token.isBlank) = false := by
      rw [Bool.and_eq_false_iff]
      exact filled.imp_right fun visible => by simpa using visible
    have readFurtherOn := readOption_map_shift_eq_ok read finish' distance
    rw [← behind] at readFurtherOn
    refine ⟨_, Stage.ofSegment_eq_ok named rfl readFurtherOn stillFilled, ?_⟩
    rw [positionalValue_map_shift]

theorem readPipeline_namedStage {name text : String} {tokens left : List Token} {finish : Stop}
    {options : Fields} (isWord : IsWord name) (cut : tokensFrom 0 text.toList = .ok tokens)
    (unpiped : ∀ token ∈ tokens, token.kind ≠ .pipe)
    (read : readOption finish (skipBlanks tokens) = .ok (options, left))
    (filled : options.isEmpty = false ∨ ∃ token ∈ left, token.isBlank = false) :
    readPipeline (namedStage name text) =
      .ok [{ name, options, value := positionalValue left }] :=
  (readPipeline_namedStage_eq_ok_iff isWord cut unpiped finish).mpr
    ⟨options, left, read, filled, rfl⟩

theorem readPipeline_namedStage_of_option {name text : String} {tokens left : List Token}
    {key value : Token} (isWord : IsWord name) (cut : tokensFrom 0 text.toList = .ok tokens)
    (unpiped : ∀ token ∈ tokens, token.kind ≠ .pipe)
    (begins : BeginsWithOption tokens key value left) :
    readPipeline (namedStage name text) =
      .ok [{ name, options := (∅ : Fields).insert key.text value.text,
             value := positionalValue left }] :=
  readPipeline_namedStage isWord cut unpiped (begins.readOption_eq (.endOfInput none))
    (.inl (Std.ExtTreeMap.isEmpty_eq_false_iff.mpr Std.ExtTreeMap.insert_ne_empty))

theorem readPipeline_explicitSearch_of_option {text : String} {tokens left : List Token}
    {key value : Token} (cut : tokensFrom 0 text.toList = .ok tokens)
    (unpiped : ∀ token ∈ tokens, token.kind ≠ .pipe)
    (begins : BeginsWithOption tokens key value left) :
    readPipeline (explicitSearch text) =
      .ok [{ name := searchName, options := (∅ : Fields).insert key.text value.text,
             value := positionalValue left }] := by
  rw [explicitSearch_eq]
  exact readPipeline_namedStage_of_option isWord_searchName cut unpiped begins

theorem readPipeline_explicitSearch_of_no_option {text : String} {tokens : List Token}
    {finish : Stop} {clauses : List Clause} (cut : tokensFrom 0 text.toList = .ok tokens)
    (read : readClauses finish tokens = .ok clauses)
    (unpiped : ∀ token ∈ tokens, token.kind ≠ .pipe)
    (notBlank : ∃ token ∈ tokens, token.isBlank = false)
    (plain : ∀ key value left, ¬BeginsWithOption tokens key value left) :
    readPipeline (explicitSearch text) = .ok [Stage.search (positionalValue tokens)] := by
  rw [explicitSearch_eq, ← positionalValue_skipBlanks]
  exact readPipeline_namedStage isWord_searchName cut unpiped
    (readOption_of_not_beginsWithOption read plain) (.inr (exists_mem_skipBlanks notBlank))

end LogQuery.Query
