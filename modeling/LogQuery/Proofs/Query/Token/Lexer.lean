import LogQuery.Outcome
import LogQuery.Query.Token.Lexer

/-!
# Tokens and the text they are cut from

Cutting loses nothing: the tokens of a text make up the text again.  It is also local: where a text
begins does not matter to its kinds of tokens, and a part of the text that begins with one token and
ends with another is cut as it is within the whole.
-/

namespace LogQuery.Query

open LogQuery.Text

/-- How the first token of a text is read: kind, text, and what is left. -/
inductive ReadsTo : List Char → TokenKind → List Char → List Char → Prop where
  | equals (rest : List Char) : ReadsTo ('=' :: rest) .equals ['='] rest
  | notEquals (rest : List Char) : ReadsTo ('!' :: '=' :: rest) .notEquals ['!', '='] rest
  | openParen (rest : List Char) : ReadsTo ('(' :: rest) .openParen ['('] rest
  | closeParen (rest : List Char) : ReadsTo (')' :: rest) .closeParen [')'] rest
  | comma (rest : List Char) : ReadsTo (',' :: rest) .comma [','] rest
  | pipe (rest : List Char) : ReadsTo ('|' :: rest) .pipe ['|'] rest
  | quoted {rest inside left : List Char} (closes : takeQuoted rest = some (inside, left)) :
      ReadsTo ('"' :: rest) .quoted inside left
  | blank {c : Char} {rest : List Char} (isBlank : Text.isBlank c = true) :
      ReadsTo (c :: rest) .blank [c] rest
  | word {c : Char} {rest : List Char} (begins : endsWord (c :: rest) = false)
      (notQuote : c ≠ '"') :
      ReadsTo (c :: rest) (classifyWord (c :: (takeWord rest).1)) (c :: (takeWord rest).1)
        (takeWord rest).2

/-- A character that begins a word or a quoted text is no symbol and no white space. -/
theorem endsWord_eq_false_iff {c : Char} {rest : List Char} :
    endsWord (c :: rest) = false ↔
      (∀ left, c = '!' → rest = '=' :: left → False) ∧ c ≠ '=' ∧ c ≠ '(' ∧ c ≠ ')' ∧ c ≠ ',' ∧
        c ≠ '|' ∧ Text.isBlank c = false := by
  constructor
  · intro begins
    have notUnequal (left : List Char) (bang : c = '!') (sign : rest = '=' :: left) : False := by
      rw [bang, sign] at begins
      cases begins
    rw [endsWord.eq_3 c rest notUnequal] at begins
    refine ⟨notUnequal, ?_⟩
    simpa only [Bool.or_eq_false_iff, beq_eq_false_iff_ne, and_assoc] using begins
  · rintro ⟨notUnequal, plain⟩
    rw [endsWord.eq_3 c rest notUnequal]
    simpa only [Bool.or_eq_false_iff, beq_eq_false_iff_ne, and_assoc] using plain

theorem readToken_blank {c : Char} (rest : List Char) (isBlank : Text.isBlank c = true) :
    readToken c rest = some (.blank, [c], rest) := by
  rw [readToken.eq_8, if_pos isBlank]
  all_goals
    intros
    subst_vars
    revert isBlank
    decide

theorem readToken_word {c : Char} {rest : List Char} (begins : endsWord (c :: rest) = false)
    (notQuote : c ≠ '"') :
    readToken c rest =
      some (classifyWord (c :: (takeWord rest).1), c :: (takeWord rest).1, (takeWord rest).2) := by
  obtain ⟨notUnequal, notEquals, notOpen, notClose, notComma, notPipe, notBlank⟩ :=
    endsWord_eq_false_iff.mp begins
  rw [readToken.eq_8 c rest notEquals notOpen notClose notComma notPipe notQuote notUnequal,
    if_neg (Bool.eq_false_iff.mp notBlank)]

theorem readToken_eq_some_iff {c : Char} {rest text left : List Char} {kind : TokenKind} :
    readToken c rest = some (kind, text, left) ↔ ReadsTo (c :: rest) kind text left := by
  constructor
  · intro read
    unfold readToken at read
    split at read
    · cases read
      exact .equals rest
    · cases read
      exact .notEquals left
    · cases read
      exact .openParen rest
    · cases read
      exact .closeParen rest
    · cases read
      exact .comma rest
    · cases read
      exact .pipe rest
    · obtain ⟨⟨inside, rest'⟩, closes, made⟩ := Option.map_eq_some_iff.mp read
      cases made
      exact .quoted closes
    · next notEquals notOpen notClose notComma notPipe notQuote notUnequal =>
        split at read
        · next isBlank =>
            cases read
            exact .blank isBlank
        · next notBlank =>
            cases read
            refine .word (endsWord_eq_false_iff.mpr ?_) notQuote
            exact ⟨notUnequal, notEquals, notOpen, notClose, notComma, notPipe,
              Bool.eq_false_iff.mpr notBlank⟩
  · intro reads
    cases reads with
    | equals rest => rfl
    | notEquals rest => rfl
    | openParen rest => rfl
    | closeParen rest => rfl
    | comma rest => rfl
    | pipe rest => rfl
    | quoted closes => exact Option.map_eq_some_iff.mpr ⟨_, closes, rfl⟩
    | blank isBlank => exact readToken_blank rest isBlank
    | word begins notQuote => exact readToken_word begins notQuote

/-! ## Cutting loses nothing -/

theorem byteLength_append (text more : List Char) :
    byteLength (text ++ more) = byteLength text + byteLength more := by
  induction text with
  | nil => exact (Nat.zero_add _).symm
  | cons c text inductionHypothesis =>
      exact (congrArg (c.utf8Size + ·) inductionHypothesis).trans (Nat.add_assoc _ _ _).symm

theorem takeWord_append (text : List Char) : (takeWord text).1 ++ (takeWord text).2 = text := by
  induction text with
  | nil => rfl
  | cons c rest inductionHypothesis =>
      unfold takeWord
      split
      · rfl
      · exact congrArg (c :: ·) inductionHypothesis

theorem quote_append_of_takeQuoted {text inside left : List Char}
    (closes : takeQuoted text = some (inside, left)) : quote inside ++ left = '"' :: text := by
  suffices rest_eq : inside.flatMap (fun c => if c == '"' then ['\\', '"'] else [c]) ++ '"' :: left =
      text by
    rw [quote, List.cons_append, List.cons_append, List.append_assoc]
    exact congrArg ('"' :: ·) rest_eq
  fun_induction takeQuoted text generalizing inside left with
  | case1 => cases closes
  | case2 rest inductionHypothesis =>
      obtain ⟨⟨others, left'⟩, closesLater, made⟩ := Option.map_eq_some_iff.mp closes
      cases made
      rw [List.flatMap_cons, List.append_assoc, inductionHypothesis closesLater]
      rfl
  | case3 rest =>
      cases closes
      rfl
  | case4 c rest _ notQuote inductionHypothesis =>
      obtain ⟨⟨others, left'⟩, closesLater, made⟩ := Option.map_eq_some_iff.mp closes
      cases made
      rw [List.flatMap_cons, List.append_assoc, inductionHypothesis closesLater,
        if_neg (by simpa using notQuote)]
      rfl

theorem classifyWord_cases (word : List Char) :
    classifyWord word = .word ∨ classifyWord word = .inKeyword ∨
      classifyWord word = .notKeyword := by
  unfold classifyWord
  dsimp only
  split
  · exact .inr (.inl rfl)
  · split
    · exact .inr (.inr rfl)
    · exact .inl rfl

theorem Token.written_eq_toList {token : Token} (notQuoted : token.kind ≠ .quoted) :
    token.written = token.text.toList := by
  unfold Token.written
  split
  · next isQuoted => exact absurd isQuoted notQuoted
  · rfl

theorem written_of_ne_quoted {kind : TokenKind} (notQuoted : kind ≠ .quoted) (text : List Char)
    (offset : Nat) : (⟨kind, String.ofList text, offset⟩ : Token).written = text := by
  rw [Token.written_eq_toList notQuoted, String.toList_ofList]

/-- A token stands for the characters that it is read from. -/
theorem ReadsTo.written_append {text inside left : List Char} {kind : TokenKind}
    (reads : ReadsTo text kind inside left) (offset : Nat) :
    (⟨kind, String.ofList inside, offset⟩ : Token).written ++ left = text := by
  cases reads with
  | equals | notEquals | openParen | closeParen | comma | pipe | blank =>
      rw [written_of_ne_quoted (by decide)]
      rfl
  | quoted closes =>
      unfold Token.written
      dsimp only
      rw [String.toList_ofList, quote_append_of_takeQuoted closes]
  | word begins notQuote =>
      rw [written_of_ne_quoted, List.cons_append, takeWord_append]
      rcases classifyWord_cases _ with kind_eq | kind_eq | kind_eq
      all_goals
        rw [kind_eq]
        decide

theorem ReadsTo.kind_ne_endOfInput {text inside left : List Char} {kind : TokenKind}
    (reads : ReadsTo text kind inside left) : kind ≠ .endOfInput := by
  cases reads with
  | equals | notEquals | openParen | closeParen | comma | pipe | blank | quoted => decide
  | word begins notQuote =>
      rcases classifyWord_cases _ with kind_eq | kind_eq | kind_eq
      all_goals
        rw [kind_eq]
        decide

theorem tokensFrom_cons_eq_ok_iff {offset : Nat} {c : Char} {rest : List Char}
    {tokens : List Token} :
    tokensFrom offset (c :: rest) = .ok tokens ↔
      ∃ kind text left others, ReadsTo (c :: rest) kind text left ∧
        tokensFrom (offset + byteLength (⟨kind, String.ofList text, offset⟩ : Token).written) left =
          .ok others ∧
        tokens = ⟨kind, String.ofList text, offset⟩ :: others := by
  rw [tokensFrom]
  split
  · next unread =>
      constructor
      · intro impossible
        cases impossible
      · rintro ⟨kind, text, left, others, reads, -, -⟩
        rw [readToken_eq_some_iff.mpr reads] at unread
        cases unread
  · next kind text left read =>
      rw [bind_eq_ok]
      constructor
      · rintro ⟨others, othersRead, made⟩
        cases made
        exact ⟨kind, text, left, others, readToken_eq_some_iff.mp read, othersRead, rfl⟩
      · rintro ⟨kind', text', left', others, reads, othersRead, rfl⟩
        rw [readToken_eq_some_iff.mpr reads] at read
        cases read
        exact ⟨others, othersRead, rfl⟩

theorem tokensFrom_nil_eq_ok_iff {offset : Nat} {tokens : List Token} :
    tokensFrom offset [] = .ok tokens ↔ tokens = [] := by
  rw [tokensFrom, Except.ok.injEq, eq_comm]

theorem ReadsTo.tokensFrom {text inside left : List Char} {kind : TokenKind}
    (reads : ReadsTo text kind inside left) {offset : Nat} {others : List Token}
    (othersCut : tokensFrom
      (offset + byteLength (⟨kind, String.ofList inside, offset⟩ : Token).written) left =
        .ok others) :
    Query.tokensFrom offset text = .ok (⟨kind, String.ofList inside, offset⟩ :: others) := by
  cases text with
  | nil => cases reads
  | cons c rest =>
      exact tokensFrom_cons_eq_ok_iff.mpr ⟨kind, inside, left, others, reads, othersCut, rfl⟩

/-- The first token of a text, and the tokens of what is left. -/
theorem exists_of_tokensFrom_cons {offset : Nat} {text : List Char} {token : Token}
    {tokens : List Token} (cut : tokensFrom offset text = .ok (token :: tokens)) :
    ∃ kind inside left, token = ⟨kind, String.ofList inside, offset⟩ ∧
      ReadsTo text kind inside left ∧
      tokensFrom (offset + byteLength token.written) left = .ok tokens := by
  cases text with
  | nil => cases tokensFrom_nil_eq_ok_iff.mp cut
  | cons c rest =>
      obtain ⟨kind, inside, left, others, reads, othersCut, made⟩ :=
        tokensFrom_cons_eq_ok_iff.mp cut
      cases made
      exact ⟨kind, inside, left, rfl, reads, othersCut⟩

theorem eq_nil_of_tokensFrom_nil {offset : Nat} {text : List Char}
    (cut : tokensFrom offset text = .ok []) : text = [] := by
  cases text with
  | nil => rfl
  | cons c rest =>
      obtain ⟨_, _, _, _, -, -, made⟩ := tokensFrom_cons_eq_ok_iff.mp cut
      cases made

/-- The tokens of a text make up the text. -/
theorem flatMap_written_of_tokensFrom {offset : Nat} {text : List Char} {tokens : List Token}
    (cut : tokensFrom offset text = .ok tokens) : tokens.flatMap Token.written = text := by
  induction tokens generalizing offset text with
  | nil => exact (eq_nil_of_tokensFrom_nil cut).symm
  | cons token tokens inductionHypothesis =>
      obtain ⟨kind, inside, left, rfl, reads, othersCut⟩ := exists_of_tokensFrom_cons cut
      rw [List.flatMap_cons, inductionHypothesis othersCut, reads.written_append]

/-- The end of a text is marked only by the marker that is put behind its tokens. -/
theorem kind_ne_endOfInput_of_mem_tokensFrom {offset : Nat} {text : List Char}
    {tokens : List Token} (cut : tokensFrom offset text = .ok tokens) {token : Token}
    (member : token ∈ tokens) : token.kind ≠ .endOfInput := by
  induction tokens generalizing offset text with
  | nil => cases member
  | cons first tokens inductionHypothesis =>
      obtain ⟨kind, inside, left, rfl, reads, othersCut⟩ := exists_of_tokensFrom_cons cut
      rcases List.mem_cons.mp member with rfl | member
      · exact reads.kind_ne_endOfInput
      · exact inductionHypothesis othersCut member

theorem tokenize_eq_ok_iff {query : String} {tokens : List Token} :
    tokenize query = .ok tokens ↔
      ∃ cut, tokensFrom 0 query.toList = .ok cut ∧
        tokens = cut ++ [⟨.endOfInput, "", query.utf8ByteSize⟩] := by
  unfold tokenize
  rw [bind_eq_ok]
  simp only [Except.ok.injEq, eq_comm]

theorem bne_endOfInput_of_mem_tokensFrom {offset : Nat} {text : List Char} {tokens : List Token}
    (cut : tokensFrom offset text = .ok tokens) (token : Token) (member : token ∈ tokens) :
    (token.kind != .endOfInput) = true :=
  bne_iff_ne.mpr (kind_ne_endOfInput_of_mem_tokensFrom cut member)

theorem beforeEnd_append_marker {offset : Nat} {text : List Char} {tokens : List Token}
    (cut : tokensFrom offset text = .ok tokens) (marker : Token)
    (marks : marker.kind = .endOfInput) : beforeEnd (tokens ++ [marker]) = tokens := by
  have unmarked := bne_endOfInput_of_mem_tokensFrom cut
  rw [beforeEnd, List.takeWhile_append_of_pos unmarked, List.takeWhile_cons_of_neg (by simp [marks]),
    List.append_nil]

theorem endOffset_append_marker {offset : Nat} {text : List Char} {tokens : List Token}
    (cut : tokensFrom offset text = .ok tokens) (marker : Token)
    (marks : marker.kind = .endOfInput) :
    endOffset (tokens ++ [marker]) = some marker.offset := by
  have unmarked := bne_endOfInput_of_mem_tokensFrom cut
  rw [endOffset, List.dropWhile_append_of_pos unmarked,
    List.dropWhile_cons_of_neg (by simp [marks])]

/-! ## Cutting is local -/

@[simp] theorem Token.kind_shift (distance : Nat) (token : Token) :
    (token.shift distance).kind = token.kind := rfl

@[simp] theorem Token.text_shift (distance : Nat) (token : Token) :
    (token.shift distance).text = token.text := rfl

@[simp] theorem Token.isBlank_shift (distance : Nat) (token : Token) :
    (token.shift distance).isBlank = token.isBlank := rfl

@[simp] theorem Token.isValue_shift (distance : Nat) (token : Token) :
    (token.shift distance).isValue = token.isValue := rfl

/-- Further on in a query a text is cut into the same tokens, which are further on too. -/
theorem tokensFrom_add {offset : Nat} {text : List Char} {tokens : List Token}
    (cut : tokensFrom offset text = .ok tokens) (distance : Nat) :
    tokensFrom (offset + distance) text = .ok (tokens.map (Token.shift distance)) := by
  induction tokens generalizing offset text with
  | nil =>
      rw [eq_nil_of_tokensFrom_nil cut]
      exact tokensFrom_nil_eq_ok_iff.mpr rfl
  | cons token tokens inductionHypothesis =>
      obtain ⟨kind, inside, left, rfl, reads, othersCut⟩ := exists_of_tokensFrom_cons cut
      have shifted := inductionHypothesis othersCut
      rw [Nat.add_right_comm] at shifted
      exact reads.tokensFrom shifted

/-- The tokens of a part of a query are those of the part by itself, further on. -/
theorem exists_tokensFrom_zero {offset : Nat} {text : List Char} {tokens : List Token}
    (cut : tokensFrom offset text = .ok tokens) :
    ∃ others, tokensFrom 0 text = .ok others ∧ tokens = others.map (Token.shift offset) := by
  induction tokens generalizing offset text with
  | nil =>
      rw [eq_nil_of_tokensFrom_nil cut]
      exact ⟨[], tokensFrom_nil_eq_ok_iff.mpr rfl, rfl⟩
  | cons token tokens inductionHypothesis =>
      obtain ⟨kind, inside, left, rfl, reads, othersCut⟩ := exists_of_tokensFrom_cons cut
      obtain ⟨others, othersCut', tokens_eq⟩ := inductionHypothesis othersCut
      refine ⟨_, reads.tokensFrom (tokensFrom_add othersCut' _), ?_⟩
      rw [List.map_cons, List.map_map, tokens_eq]
      refine congr (congrArg List.cons ?_) (List.map_congr_left ?_)
      · exact congrArg (Token.mk kind _) (Nat.zero_add offset).symm
      · intro other _
        refine congrArg (Token.mk other.kind other.text) ?_
        exact (congrArg (other.offset + ·) (Nat.add_comm offset _)).trans
          (Nat.add_assoc other.offset _ offset).symm

/-- What follows some tokens is cut by itself as it is within the whole. -/
theorem tokensFrom_of_append {offset : Nat} {text : List Char} {front back : List Token}
    (cut : tokensFrom offset text = .ok (front ++ back)) :
    tokensFrom (offset + byteLength (front.flatMap Token.written)) (back.flatMap Token.written) =
      .ok back := by
  induction front generalizing offset text with
  | nil =>
      rw [List.nil_append] at cut
      rwa [flatMap_written_of_tokensFrom cut]
  | cons token front inductionHypothesis =>
      obtain ⟨_, _, _, -, -, othersCut⟩ := exists_of_tokensFrom_cons cut
      rw [List.flatMap_cons, byteLength_append, ← Nat.add_assoc]
      exact inductionHypothesis othersCut

/-- An exclamation mark and the equals sign behind it are one token. -/
theorem not_between_bang_and_equals {offset : Nat} {text left : List Char}
    {front back : List Token} (cut : tokensFrom offset text = .ok (front ++ back))
    (bang : front.flatMap Token.written = ['!']) :
    back.flatMap Token.written ≠ '=' :: left := by
  intro sign
  have text_eq := flatMap_written_of_tokensFrom cut
  rw [List.flatMap_append, bang, sign] at text_eq
  cases front with
  | nil => cases bang
  | cons token front =>
      obtain ⟨kind, inside, rest, rfl, reads, -⟩ := exists_of_tokensFrom_cons cut
      rw [← text_eq] at reads
      have read : some (.notEquals, ['!', '='], left) = some (kind, inside, rest) :=
        readToken_eq_some_iff.mpr reads
      cases read
      rw [List.flatMap_cons, written_of_ne_quoted (by decide)] at bang
      cases bang

section Dropped

variable {kept dropped : List Char}

theorem endsWord_cons_of_append {c : Char} {rest : List Char}
    (begins : endsWord (c :: (rest ++ dropped)) = false) : endsWord (c :: rest) = false := by
  rw [endsWord_eq_false_iff] at begins ⊢
  refine ⟨?_, begins.2⟩
  intro left bang sign
  exact begins.1 (left ++ dropped) bang (by rw [sign, List.cons_append])

theorem takeQuoted_of_append {text inside : List Char}
    (closes : takeQuoted text = some (inside, kept ++ dropped)) :
    ∃ text', text = text' ++ dropped ∧ takeQuoted text' = some (inside, kept) := by
  fun_induction takeQuoted text generalizing inside with
  | case1 => cases closes
  | case2 rest inductionHypothesis =>
      obtain ⟨⟨others, left⟩, closesLater, made⟩ := Option.map_eq_some_iff.mp closes
      cases made
      obtain ⟨rest', rfl, closesKept⟩ := inductionHypothesis closesLater
      exact ⟨'\\' :: '"' :: rest', rfl, Option.map_eq_some_iff.mpr ⟨_, closesKept, rfl⟩⟩
  | case3 rest =>
      cases closes
      exact ⟨'"' :: kept, rfl, rfl⟩
  | case4 c rest notEscape notQuote inductionHypothesis =>
      obtain ⟨⟨others, left⟩, closesLater, made⟩ := Option.map_eq_some_iff.mp closes
      cases made
      obtain ⟨rest', rfl, closesKept⟩ := inductionHypothesis closesLater
      refine ⟨c :: rest', rfl, ?_⟩
      rw [takeQuoted.eq_4 c rest' _ notQuote, closesKept]
      · rfl
      · rintro left backslash rfl
        exact notEscape (left ++ dropped) backslash rfl

-- Only the sign `!=` has a beginning that is read otherwise when it stands alone.
variable (apart : ∀ left, kept = ['!'] → dropped ≠ '=' :: left)

include apart

theorem endsWord_of_append (ends : endsWord (kept ++ dropped) = true) : endsWord kept = true := by
  cases kept with
  | nil => rfl
  | cons c kept =>
      cases begins : endsWord (c :: kept) with
      | true => rfl
      | false =>
          have further : endsWord (c :: (kept ++ dropped)) = false := by
            rw [endsWord_eq_false_iff] at begins ⊢
            refine ⟨?_, begins.2⟩
            rintro left rfl sign
            cases kept with
            | nil => exact apart left rfl sign
            | cons d kept =>
                obtain ⟨rfl, -⟩ := List.cons.inj sign
                exact begins.1 kept rfl rfl
          rw [List.cons_append, further] at ends
          cases ends

theorem takeWord_of_append {text word : List Char}
    (taken : takeWord text = (word, kept ++ dropped)) :
    text = word ++ kept ++ dropped ∧ takeWord (word ++ kept) = (word, kept) := by
  induction text generalizing word with
  | nil =>
      rw [takeWord] at taken
      obtain ⟨rfl, empty⟩ := Prod.mk.inj taken
      obtain ⟨rfl, rfl⟩ := List.append_eq_nil_iff.mp empty.symm
      exact ⟨rfl, rfl⟩
  | cons c rest inductionHypothesis =>
      rw [takeWord] at taken
      split at taken
      · next ends =>
          obtain ⟨rfl, rest_eq⟩ := Prod.mk.inj taken
          refine ⟨rest_eq, ?_⟩
          rw [rest_eq] at ends
          have endsKept := endsWord_of_append apart ends
          cases kept with
          | nil => rfl
          | cons d kept => exact if_pos endsKept
      · next begins =>
          obtain ⟨rfl, left_eq⟩ := Prod.mk.inj taken
          obtain ⟨rest_eq, keptTaken⟩ := inductionHypothesis (Prod.ext rfl left_eq)
          refine ⟨congrArg (c :: ·) rest_eq, ?_⟩
          rw [Bool.not_eq_true, rest_eq] at begins
          have beginsKept := endsWord_cons_of_append begins
          rw [List.cons_append, takeWord, if_neg (by simp [beginsKept]), keptTaken]

/-- A token does not depend on what stands behind a later token. -/
theorem ReadsTo.of_append {text inside : List Char} {kind : TokenKind}
    (reads : ReadsTo text kind inside (kept ++ dropped)) :
    ∃ text', text = text' ++ dropped ∧ ReadsTo text' kind inside kept := by
  generalize left_eq : kept ++ dropped = left at reads
  cases reads with
  | equals rest =>
      subst left_eq
      exact ⟨_, rfl, .equals kept⟩
  | notEquals rest =>
      subst left_eq
      exact ⟨_, rfl, .notEquals kept⟩
  | openParen rest =>
      subst left_eq
      exact ⟨_, rfl, .openParen kept⟩
  | closeParen rest =>
      subst left_eq
      exact ⟨_, rfl, .closeParen kept⟩
  | comma rest =>
      subst left_eq
      exact ⟨_, rfl, .comma kept⟩
  | pipe rest =>
      subst left_eq
      exact ⟨_, rfl, .pipe kept⟩
  | quoted closes =>
      subst left_eq
      obtain ⟨rest', rfl, closesKept⟩ := takeQuoted_of_append closes
      exact ⟨'"' :: rest', rfl, .quoted closesKept⟩
  | blank isBlank =>
      subst left_eq
      exact ⟨_ :: kept, rfl, .blank isBlank⟩
  | word begins notQuote =>
      obtain ⟨rest_eq, keptTaken⟩ := takeWord_of_append apart (Prod.ext rfl left_eq.symm)
      rw [rest_eq] at begins
      have readsKept := ReadsTo.word (endsWord_cons_of_append begins) notQuote
      rw [keptTaken] at readsKept
      exact ⟨_, congrArg (_ :: ·) rest_eq, readsKept⟩

end Dropped

/-- Without the characters of its last tokens, a text is cut into the other ones. -/
theorem tokensFrom_front_of_append {offset : Nat} {text : List Char} {front back : List Token}
    (cut : tokensFrom offset text = .ok (front ++ back)) :
    tokensFrom offset (front.flatMap Token.written) = .ok front := by
  induction front generalizing offset text with
  | nil => exact tokensFrom_nil_eq_ok_iff.mpr rfl
  | cons token front inductionHypothesis =>
      rw [List.cons_append] at cut
      obtain ⟨kind, inside, left, rfl, reads, othersCut⟩ := exists_of_tokensFrom_cons cut
      have left_eq := flatMap_written_of_tokensFrom othersCut
      rw [List.flatMap_append] at left_eq
      rw [← left_eq] at reads
      obtain ⟨text', -, readsFront⟩ :=
        reads.of_append fun _ => not_between_bang_and_equals othersCut
      rw [List.flatMap_cons, readsFront.written_append]
      exact readsFront.tokensFrom (inductionHypothesis othersCut)

end LogQuery.Query
