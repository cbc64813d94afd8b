import LogQuery.Proofs.Outcome
import LogQuery.Proofs.Query.Token.Lexer
import Mathlib.Data.List.Chain
import Mathlib.Data.String.Basic

/-!
# Where tokens lie in a query

The tokens of a query lie one behind the other from its first byte to the marker at its end, and
each is spelled by the characters between its own offset and that of the next token.  The only
queries without tokens are those in which a quoted text is opened and never closed.
-/

namespace LogQuery.Query

/-- Words, and the keywords that are spelled like them. -/
def TokenKind.isBareWord (kind : TokenKind) : Bool :=
  kind == .word || kind.isKeyword

/-- The part of a query between two of its bytes. -/
def slice (query : String) (start stop : Nat) : String :=
  String.Pos.Raw.extract query ⟨start⟩ ⟨stop⟩

/-- What stands between quotes without the backslashes in front of double quotes. -/
def unescape : List Char → List Char
  | [] => []
  | '\\' :: '"' :: rest => '"' :: unescape rest
  | c :: rest => c :: unescape rest

/-- What follows an opening quote and does not close it: each double quote stands directly behind a
backslash, and not behind the opening quote itself. -/
def NeverCloses (text : List Char) : Prop :=
  ('"' :: text).IsChain fun c next => next = '"' → c = '\\'

/-- How tokens are spelled.  The closing quote of a quoted text is the first double quote that no
backslash stands in front of. -/
inductive Token.SpelledAs (token : Token) : List Char → Prop where
  | plain (notQuoted : token.kind ≠ .quoted) : token.SpelledAs token.text.toList
  | quoted {inside : List Char} (isQuoted : token.kind = .quoted) (escaped : NeverCloses inside)
      (closed : inside.getLast? ≠ some '\\') (text_eq : token.text.toList = unescape inside) :
      token.SpelledAs ('"' :: inside ++ ['"'])

/-- The tokens cover the query without gaps. -/
structure Partitions (query : String) (tokens : List Token) : Prop where
  beginsAtZero : tokens.head?.map Token.offset = some 0
  ascending : (tokens.map Token.offset).Pairwise (· < ·)
  atCharacters : ∀ token ∈ tokens, String.Pos.Raw.IsValid query ⟨token.offset⟩
  endsWithMarker : ∃ cut, tokens = cut ++ [⟨.endOfInput, "", query.utf8ByteSize⟩] ∧
    ∀ token ∈ cut, token.kind ≠ .endOfInput
  spelled : tokens.IsChain fun token next =>
    token.SpelledAs (slice query token.offset next.offset).toList
  maximalWords : tokens.IsChain fun token next => token.kind.isBareWord = true →
    next.kind.isBareWord = false ∧ next.kind ≠ .quoted

/-- A quoted text is opened in a query and never closed: what stands before the quote is cut into
tokens, the last of them is no word that the quote belongs to, and no quote behind it closes it. -/
structure OpensUnclosed (query before rest : String) : Prop where
  split : query = before ++ "\"" ++ rest
  atBoundary : ∃ tokens, tokenize before = .ok tokens ∧
    ∀ token ∈ (beforeEnd tokens).getLast?, token.kind.isBareWord = false
  neverClosed : NeverCloses rest.toList

/-! ## Bytes of a query -/

theorem byteLength_eq_utf8Len (text : List Char) : byteLength text = String.utf8Len text := by
  induction text with
  | nil => rfl
  | cons c text inductionHypothesis =>
      exact (congrArg (c.utf8Size + ·) inductionHypothesis).trans (Nat.add_comm _ _)

theorem utf8ByteSize_eq_byteLength (text : String) :
    text.utf8ByteSize = byteLength text.toList := by
  rw [byteLength_eq_utf8Len, ← String.utf8ByteSize_ofList, String.ofList_toList]

theorem slice_of_prefix {query : String} {before middle : List Char}
    (isPrefix : before ++ middle <+: query.toList) :
    slice query (byteLength before) (byteLength before + byteLength middle) =
      String.ofList middle := by
  obtain ⟨behind, query_eq⟩ := isPrefix
  rw [← String.ofList_toList (s := query), ← query_eq]
  simp only [byteLength_eq_utf8Len]
  exact String.extract_of_valid before middle behind

theorem isValid_of_prefix {query : String} {before : List Char}
    (isPrefix : before <+: query.toList) :
    String.Pos.Raw.IsValid query ⟨byteLength before⟩ := by
  obtain ⟨behind, query_eq⟩ := isPrefix
  refine String.Pos.Raw.isValid_iff_exists_append.mpr
    ⟨String.ofList before, String.ofList behind, ?_, ?_⟩
  · rw [← String.ofList_append, query_eq, String.ofList_toList]
  · rw [byteLength_eq_utf8Len, ← String.utf8ByteSize_ofList]
    rfl

/-- No token is empty. -/
theorem ReadsTo.byteLength_written_pos {text inside left : List Char} {kind : TokenKind}
    (reads : ReadsTo text kind inside left) (offset : Nat) :
    0 < byteLength (⟨kind, String.ofList inside, offset⟩ : Token).written := by
  have written := reads.written_append offset
  cases characters : (⟨kind, String.ofList inside, offset⟩ : Token).written with
  | nil =>
      rw [characters, List.nil_append] at written
      subst written
      cases left with
      | nil => cases reads
      | cons c rest =>
          have shorter := length_readToken_le (readToken_eq_some_iff.mpr reads)
          exact absurd shorter (Nat.not_succ_le_self _)
  | cons c characters => exact Nat.lt_of_lt_of_le (Char.utf8Size_pos c) (Nat.le_add_right _ _)

/-! ## Quoted texts -/

theorem neverCloses_cons_iff {c : Char} {text : List Char}
    (notEscape : ∀ left, c = '\\' → text ≠ '"' :: left) (notQuote : c ≠ '"') :
    NeverCloses (c :: text) ↔ NeverCloses text := by
  unfold NeverCloses
  cases text with
  | nil => simp [notQuote]
  | cons d text =>
      have unescaped : d = '"' → c ≠ '\\' := fun isQuote backslash =>
        notEscape text backslash (by rw [isQuote])
      simp only [List.isChain_cons_cons, notQuote, false_imp_iff, true_and]
      refine and_congr_left fun _ => forall_congr' fun isQuote => ?_
      exact iff_of_false (unescaped isQuote) (by decide)

theorem takeQuoted_eq_none_iff {text : List Char} :
    takeQuoted text = none ↔ NeverCloses text := by
  fun_induction takeQuoted text with
  | case1 => simp [NeverCloses]
  | case2 rest inductionHypothesis =>
      rw [Option.map_eq_none_iff, inductionHypothesis]
      simp [NeverCloses]
  | case3 rest => simp [NeverCloses]
  | case4 c rest notEscape notQuote inductionHypothesis =>
      rw [Option.map_eq_none_iff, inductionHypothesis, neverCloses_cons_iff notEscape notQuote]

/-- The text in quotes ends before the first double quote that no backslash stands in front of. -/
theorem exists_inside_of_takeQuoted {text unescaped left : List Char}
    (closes : takeQuoted text = some (unescaped, left)) :
    ∃ inside, text = inside ++ '"' :: left ∧ NeverCloses inside ∧ inside.getLast? ≠ some '\\' ∧
      unescaped = unescape inside := by
  fun_induction takeQuoted text generalizing unescaped left with
  | case1 => cases closes
  | case2 rest inductionHypothesis =>
      obtain ⟨⟨others, left'⟩, closesLater, made⟩ := Option.map_eq_some_iff.mp closes
      cases made
      obtain ⟨inside, rfl, escaped, closed, rfl⟩ := inductionHypothesis closesLater
      refine ⟨'\\' :: '"' :: inside, rfl, ?_, ?_, rfl⟩
      · simpa [NeverCloses] using escaped
      · cases inside with
        | nil => decide
        | cons d inside => rwa [List.getLast?_cons_cons, List.getLast?_cons_cons]
  | case3 rest =>
      cases closes
      exact ⟨[], rfl, by simp [NeverCloses], by simp, rfl⟩
  | case4 c rest notEscape notQuote inductionHypothesis =>
      obtain ⟨⟨others, left'⟩, closesLater, made⟩ := Option.map_eq_some_iff.mp closes
      cases made
      obtain ⟨inside, rfl, escaped, closed, rfl⟩ := inductionHypothesis closesLater
      have notEscape' (left : List Char) (backslash : c = '\\') : inside ≠ '"' :: left := by
        rintro rfl
        exact notEscape _ backslash rfl
      refine ⟨c :: inside, rfl, (neverCloses_cons_iff notEscape' notQuote).mpr escaped, ?_, ?_⟩
      · cases inside with
        | nil => simpa using fun backslash => notEscape left backslash rfl
        | cons d inside => rwa [List.getLast?_cons_cons]
      · rw [unescape.eq_3 c inside notEscape']

/-- Escaping undoes itself, except where a backslash at the end escapes the closing quote. -/
theorem takeQuoted_escaped {text : List Char} (closed : text.getLast? ≠ some '\\')
    (left : List Char) :
    takeQuoted (text.flatMap (fun c => if c == '"' then ['\\', '"'] else [c]) ++ '"' :: left) =
      some (text, left) := by
  induction text with
  | nil => rfl
  | cons c text inductionHypothesis =>
      have closedBehind : text.getLast? ≠ some '\\' := by
        cases text with
        | nil => simp
        | cons d text => rwa [List.getLast?_cons_cons] at closed
      have behind := inductionHypothesis closedBehind
      rw [List.flatMap_cons, List.append_assoc]
      by_cases isQuote : c = '"'
      · subst isQuote
        exact Option.map_eq_some_iff.mpr ⟨_, behind, rfl⟩
      · rw [if_neg (by simpa using isQuote), List.singleton_append,
          takeQuoted.eq_4 c _ _ isQuote, behind]
        · rfl
        · -- What stands behind a backslash is escaped too, so it begins with no double quote.
          rintro rest rfl
          cases text with
          | nil => exact absurd rfl closed
          | cons d text =>
              intro sign
              rw [List.flatMap_cons] at sign
              split at sign
              · cases sign
              · next notQuote => exact notQuote (by cases sign; rfl)

theorem readsTo_quote_append {text : List Char} (closed : text.getLast? ≠ some '\\')
    (left : List Char) : ReadsTo (quote text ++ left) .quoted text left := by
  rw [quote, List.append_assoc]
  exact .quoted (takeQuoted_escaped closed left)

/-! ## One token -/

theorem isBareWord_classifyWord (word : List Char) : (classifyWord word).isBareWord = true := by
  rcases classifyWord_cases word with kind_eq | kind_eq | kind_eq
  all_goals
    rw [kind_eq]
    decide

theorem endsWord_takeWord (text : List Char) : endsWord (takeWord text).2 = true := by
  fun_induction takeWord text with
  | case1 => rfl
  | case2 c rest ends => exact ends
  | case3 c rest _ word left taken inductionHypothesis =>
      rw [taken] at inductionHypothesis
      exact inductionHypothesis

namespace ReadsTo

variable {text inside left : List Char} {kind : TokenKind}

/-- A word goes on as far as it can. -/
theorem endsWord_of_isBareWord (reads : ReadsTo text kind inside left)
    (bare : kind.isBareWord = true) : endsWord left = true := by
  cases reads with
  | equals | notEquals | openParen | closeParen | comma | pipe | quoted | blank => cases bare
  | word begins notQuote => exact endsWord_takeWord _

/-- No word and no quoted text begins where a word ends. -/
theorem kind_of_endsWord (reads : ReadsTo text kind inside left) (ends : endsWord text = true) :
    kind.isBareWord = false ∧ kind ≠ .quoted := by
  cases reads with
  | equals | notEquals | openParen | closeParen | comma | pipe | blank => decide
  | quoted closes => cases ends
  | word begins notQuote =>
      rw [begins] at ends
      cases ends

theorem exists_takeQuoted (reads : ReadsTo text .quoted inside left) :
    ∃ rest, text = '"' :: rest ∧ takeQuoted rest = some (inside, left) := by
  generalize kind_eq : TokenKind.quoted = kind at reads
  cases reads with
  | equals | notEquals | openParen | closeParen | comma | pipe | blank => cases kind_eq
  | quoted closes => exact ⟨_, rfl, closes⟩
  | word begins notQuote =>
      have bare := congrArg TokenKind.isBareWord kind_eq
      rw [isBareWord_classifyWord] at bare
      cases bare

theorem spelledAs (reads : ReadsTo text kind inside left) (offset : Nat) :
    (⟨kind, String.ofList inside, offset⟩ : Token).SpelledAs
      (⟨kind, String.ofList inside, offset⟩ : Token).written := by
  by_cases isQuoted : kind = .quoted
  · subst isQuoted
    have written := reads.written_append offset
    obtain ⟨rest, rfl, closes⟩ := reads.exists_takeQuoted
    obtain ⟨between, rfl, escaped, closed, rfl⟩ := exists_inside_of_takeQuoted closes
    rw [← List.singleton_append (l := left), ← List.cons_append, ← List.append_assoc,
      List.append_left_inj] at written
    rw [written]
    exact .quoted rfl escaped closed String.toList_ofList
  · rw [Token.written_eq_toList isQuoted]
    exact .plain isQuoted

end ReadsTo

/-! ## All tokens -/

section Tokenized

variable {query : String} {tokens : List Token} (tokenized : tokenize query = .ok tokens)

include tokenized

/-- A token is the marker at the end, or it is cut from the query. -/
theorem marker_or_cut_of_tokenize {front back : List Token} {token : Token}
    (split : tokens = front ++ token :: back) :
    token = ⟨.endOfInput, "", query.utf8ByteSize⟩ ∧ back = [] ∧
        front.flatMap Token.written = query.toList ∨
      ∃ others, back = others ++ [⟨.endOfInput, "", query.utf8ByteSize⟩] ∧
        tokensFrom 0 query.toList = .ok (front ++ token :: others) := by
  obtain ⟨cut, cutEq, rfl⟩ := tokenize_eq_ok_iff.mp tokenized
  rcases List.eq_nil_or_concat' back with rfl | ⟨others, last, rfl⟩
  · obtain ⟨rfl, same⟩ := List.append_inj' split rfl
    obtain ⟨rfl, -⟩ := List.cons.inj same
    exact .inl ⟨rfl, rfl, flatMap_written_of_tokensFrom cutEq⟩
  · rw [← List.cons_append, ← List.append_assoc] at split
    obtain ⟨rfl, same⟩ := List.append_inj' split rfl
    obtain ⟨rfl, -⟩ := List.cons.inj same
    exact .inr ⟨others, rfl, cutEq⟩

/-- A token begins where the characters of the tokens before it end. -/
theorem offset_of_tokenize {front back : List Token} {token : Token}
    (split : tokens = front ++ token :: back) :
    token.offset = byteLength (front.flatMap Token.written) ∧
      front.flatMap Token.written <+: query.toList := by
  rcases marker_or_cut_of_tokenize tokenized split with ⟨rfl, rfl, written⟩ | ⟨others, rfl, cut⟩
  · exact ⟨by rw [written, ← utf8ByteSize_eq_byteLength], written ▸ List.prefix_rfl⟩
  · have written := flatMap_written_of_tokensFrom cut
    rw [List.flatMap_append] at written
    obtain ⟨kind, inside, left, rfl, -⟩ := exists_of_tokensFrom_cons (tokensFrom_of_append cut)
    exact ⟨Nat.zero_add _, ⟨_, written⟩⟩

/-- What holds of two tokens in a row. -/
theorem adjacent_of_tokenize {front back : List Token} {token next : Token}
    (split : tokens = front ++ token :: next :: back) :
    0 < byteLength token.written ∧ token.SpelledAs token.written ∧
      (token.kind.isBareWord = true → next.kind.isBareWord = false ∧ next.kind ≠ .quoted) := by
  rcases marker_or_cut_of_tokenize tokenized split with ⟨-, impossible, -⟩ | ⟨others, back_eq, cut⟩
  · cases impossible
  · obtain ⟨kind, inside, left, rfl, reads, othersCut⟩ :=
      exists_of_tokensFrom_cons (tokensFrom_of_append cut)
    refine ⟨reads.byteLength_written_pos _, reads.spelledAs _, fun bare => ?_⟩
    cases others with
    | nil =>
        obtain ⟨rfl, -⟩ := List.cons.inj back_eq
        exact ⟨rfl, TokenKind.noConfusion⟩
    | cons other others =>
        obtain ⟨rfl, -⟩ := List.cons.inj back_eq
        obtain ⟨kind', inside', left', rfl, readsNext, -⟩ := exists_of_tokensFrom_cons othersCut
        exact readsNext.kind_of_endsWord (reads.endsWord_of_isBareWord bare)

theorem offset_next_of_tokenize {front back : List Token} {token next : Token}
    (split : tokens = front ++ token :: next :: back) :
    next.offset = token.offset + byteLength token.written ∧
      front.flatMap Token.written ++ token.written <+: query.toList := by
  have splitLater : tokens = (front ++ [token]) ++ next :: back := by rw [split]; simp
  obtain ⟨offset_eq, isPrefix⟩ := offset_of_tokenize tokenized splitLater
  rw [List.flatMap_append, List.flatMap_singleton] at offset_eq isPrefix
  rw [byteLength_append, ← (offset_of_tokenize tokenized split).1] at offset_eq
  exact ⟨offset_eq, isPrefix⟩

theorem slice_of_tokenize {front back : List Token} {token next : Token}
    (split : tokens = front ++ token :: next :: back) :
    slice query token.offset next.offset = String.ofList token.written := by
  obtain ⟨offset_eq, isPrefix⟩ := offset_next_of_tokenize tokenized split
  rw [offset_eq, (offset_of_tokenize tokenized split).1]
  exact slice_of_prefix isPrefix

theorem partitions_of_tokenize : Partitions query tokens where
  beginsAtZero := by
    cases tokens with
    | nil =>
        obtain ⟨cut, -, impossible⟩ := tokenize_eq_ok_iff.mp tokenized
        exact absurd impossible.symm (List.append_ne_nil_of_right_ne_nil cut (List.cons_ne_nil _ _))
    | cons token tokens =>
        exact congrArg some (offset_of_tokenize tokenized (List.nil_append (token :: tokens)).symm).1
  ascending := by
    rw [← List.isChain_iff_pairwise, List.isChain_map,
      List.isChain_iff_forall_rel_of_append_cons_cons]
    intro token next front back split
    rw [(offset_next_of_tokenize tokenized split).1]
    exact Nat.lt_add_of_pos_right (adjacent_of_tokenize tokenized split).1
  atCharacters := by
    intro token member
    obtain ⟨front, back, split⟩ := List.append_of_mem member
    obtain ⟨offset_eq, isPrefix⟩ := offset_of_tokenize tokenized split
    rw [offset_eq]
    exact isValid_of_prefix isPrefix
  endsWithMarker := by
    obtain ⟨cut, cutEq, rfl⟩ := tokenize_eq_ok_iff.mp tokenized
    exact ⟨cut, rfl, fun token member => kind_ne_endOfInput_of_mem_tokensFrom cutEq member⟩
  spelled := by
    refine List.isChain_iff_forall_rel_of_append_cons_cons.mpr ?_
    intro token next front back split
    rw [slice_of_tokenize tokenized split, String.toList_ofList]
    exact (adjacent_of_tokenize tokenized split).2.1
  maximalWords := by
    refine List.isChain_iff_forall_rel_of_append_cons_cons.mpr ?_
    intro token next front back split
    exact (adjacent_of_tokenize tokenized split).2.2

end Tokenized

/-! ## Further characters behind a text -/

/-- A word at the end of a text ends there whatever stands before it: what follows begins with a
symbol or white space, and not with an equals sign behind an exclamation mark. -/
structure BreaksWord (text further : List Char) : Prop where
  ends : endsWord further = true
  apart : text.getLast? = some '!' → ∀ left, further ≠ '=' :: left

theorem BreaksWord.of_append (front : List Char) {back further : List Char}
    (breaks : BreaksWord (front ++ back) further) : BreaksWord back further where
  ends := breaks.ends
  apart bang := breaks.apart (by rw [List.getLast?_append, bang]; rfl)

theorem endsWord_append {text : List Char} (ends : endsWord text = true) (notEmpty : text ≠ [])
    (further : List Char) : endsWord (text ++ further) = true := by
  cases text with
  | nil => exact absurd rfl notEmpty
  | cons c rest =>
      cases begins : endsWord (c :: (rest ++ further)) with
      | true => exact begins
      | false =>
          rw [endsWord_cons_of_append begins] at ends
          cases ends

theorem endsWord_cons_append {c : Char} {rest further : List Char}
    (begins : endsWord (c :: rest) = false)
    (apart : rest = [] → c = '!' → ∀ left, further ≠ '=' :: left) :
    endsWord (c :: (rest ++ further)) = false := by
  rw [endsWord_eq_false_iff] at begins ⊢
  refine ⟨?_, begins.2⟩
  intro left bang sign
  cases rest with
  | nil => exact apart rfl bang left sign
  | cons d rest =>
      obtain ⟨rfl, -⟩ := List.cons.inj sign
      exact begins.1 rest bang rfl

theorem takeWord_of_endsWord {text : List Char} (ends : endsWord text = true) :
    takeWord text = ([], text) := by
  cases text with
  | nil => rfl
  | cons c rest => exact if_pos ends

theorem takeWord_append_further {text further : List Char}
    (breaks : (takeWord text).2 = [] → BreaksWord text further) :
    takeWord (text ++ further) = ((takeWord text).1, (takeWord text).2 ++ further) := by
  fun_induction takeWord text with
  | case1 => exact takeWord_of_endsWord (breaks rfl).ends
  | case2 c rest ends =>
      exact if_pos (endsWord_append ends (List.cons_ne_nil c rest) _)
  | case3 c rest begins word left taken inductionHypothesis =>
      rw [taken] at inductionHypothesis
      have goesOn : endsWord (c :: (rest ++ further)) = false := by
        refine endsWord_cons_append (Bool.eq_false_iff.mpr begins) ?_
        rintro rfl rfl
        cases taken
        exact (breaks rfl).apart rfl
      rw [List.cons_append, takeWord, if_neg (by simp [goesOn]),
        inductionHypothesis fun empty => (breaks empty).of_append [c]]

theorem takeQuoted_append {text inside left : List Char}
    (closes : takeQuoted text = some (inside, left)) (further : List Char) :
    takeQuoted (text ++ further) = some (inside, left ++ further) := by
  fun_induction takeQuoted text generalizing inside left with
  | case1 => cases closes
  | case2 rest inductionHypothesis =>
      obtain ⟨⟨others, left'⟩, closesLater, made⟩ := Option.map_eq_some_iff.mp closes
      cases made
      exact Option.map_eq_some_iff.mpr ⟨_, inductionHypothesis closesLater, rfl⟩
  | case3 rest =>
      cases closes
      rfl
  | case4 c rest notEscape notQuote inductionHypothesis =>
      obtain ⟨⟨others, left'⟩, closesLater, made⟩ := Option.map_eq_some_iff.mp closes
      cases made
      rw [List.cons_append, takeQuoted.eq_4 c _ _ notQuote, inductionHypothesis closesLater]
      · rfl
      · intro behind backslash sign
        cases rest with
        | nil => cases closesLater
        | cons d rest =>
            obtain ⟨rfl, -⟩ := List.cons.inj sign
            exact notEscape rest backslash rfl

/-- Further characters belong to no token before them, except to a word right in front. -/
theorem ReadsTo.append {text inside left further : List Char} {kind : TokenKind}
    (reads : ReadsTo text kind inside left)
    (breaks : kind.isBareWord = true → left = [] → BreaksWord text further) :
    ReadsTo (text ++ further) kind inside (left ++ further) := by
  cases reads with
  | equals rest => exact .equals _
  | notEquals rest => exact .notEquals _
  | openParen rest => exact .openParen _
  | closeParen rest => exact .closeParen _
  | comma rest => exact .comma _
  | pipe rest => exact .pipe _
  | quoted closes => exact .quoted (takeQuoted_append closes _)
  | blank isBlank => exact .blank isBlank
  | @word c rest begins notQuote =>
      have breaksHere := breaks (isBareWord_classifyWord _)
      have goesOn : endsWord (c :: (rest ++ further)) = false := by
        refine endsWord_cons_append begins ?_
        rintro rfl rfl
        exact (breaksHere rfl).apart rfl
      have reads := ReadsTo.word goesOn notQuote
      rwa [takeWord_append_further fun empty => (breaksHere empty).of_append [c]] at reads

/-- A token is cut off in front of the tokens of what is left, if these can be cut. -/
theorem ReadsTo.tokensFrom_eq {text inside left : List Char} {kind : TokenKind}
    (reads : ReadsTo text kind inside left) (offset : Nat) :
    let token : Token := ⟨kind, String.ofList inside, offset⟩
    Query.tokensFrom offset text =
      (Query.tokensFrom (offset + byteLength token.written) left).map (token :: ·) := by
  cases text with
  | nil => cases reads
  | cons c rest =>
      rw [Query.tokensFrom]
      split
      · next unread =>
          rw [readToken_eq_some_iff.mpr reads] at unread
          cases unread
      · next read =>
          rw [readToken_eq_some_iff.mpr reads] at read
          cases read
          rfl

/-- Where no word goes on across the seam, two texts put together have the tokens of both. -/
theorem tokensFrom_append {offset : Nat} {text further : List Char} {tokens : List Token}
    (cut : tokensFrom offset text = .ok tokens)
    (breaks : ∀ token ∈ tokens.getLast?, token.kind.isBareWord = true → BreaksWord text further) :
    tokensFrom offset (text ++ further) =
      (tokensFrom (offset + byteLength text) further).map (tokens ++ ·) := by
  induction tokens generalizing offset text with
  | nil =>
      rw [eq_nil_of_tokensFrom_nil cut, List.nil_append]
      change _ = (tokensFrom offset further).map _
      cases tokensFrom offset further with
      | error error => rfl
      | ok others => rfl
  | cons token tokens inductionHypothesis =>
      obtain ⟨kind, inside, left, rfl, reads, othersCut⟩ := exists_of_tokensFrom_cons cut
      have breaksHere (bare : kind.isBareWord = true) (empty : left = []) :
          BreaksWord text further := by
        rw [empty, tokensFrom_nil_eq_ok_iff] at othersCut
        subst othersCut
        exact breaks ⟨kind, String.ofList inside, offset⟩ rfl bare
      have breaksLater (last : Token) (isLast : last ∈ tokens.getLast?)
          (bare : last.kind.isBareWord = true) : BreaksWord left further := by
        cases tokens with
        | nil => cases isLast
        | cons other others =>
            have breaksBehind := breaks last (by rwa [List.getLast?_cons_cons]) bare
            rw [← reads.written_append offset] at breaksBehind
            exact breaksBehind.of_append _
      have written := congrArg byteLength (reads.written_append offset)
      rw [byteLength_append] at written
      rw [(reads.append breaksHere).tokensFrom_eq offset,
        inductionHypothesis othersCut breaksLater, Nat.add_assoc, written]
      cases tokensFrom (offset + byteLength text) further with
      | error error => rfl
      | ok others => rfl

theorem tokensFrom_append_eq_ok_iff {text further : List Char} {tokens all : List Token}
    (cut : tokensFrom 0 text = .ok tokens)
    (breaks : ∀ token ∈ tokens.getLast?, token.kind.isBareWord = true → BreaksWord text further) :
    tokensFrom 0 (text ++ further) = .ok all ↔
      ∃ others, tokensFrom 0 further = .ok others ∧
        all = tokens ++ others.map (Token.shift (byteLength text)) := by
  rw [tokensFrom_append cut breaks, map_eq_ok_iff]
  constructor
  · rintro ⟨moved, movedCut, rfl⟩
    obtain ⟨others, othersCut, rfl⟩ := exists_tokensFrom_zero movedCut
    rw [Nat.zero_add]
    exact ⟨others, othersCut, rfl⟩
  · rintro ⟨others, othersCut, rfl⟩
    exact ⟨_, tokensFrom_add othersCut (byteLength text), rfl⟩

/-- White space ends every word. -/
theorem breaksWord_blank {c : Char} (isBlank : Text.isBlank c = true) (text further : List Char) :
    BreaksWord text (c :: further) where
  ends := by
    cases begins : endsWord (c :: further) with
    | true => rfl
    | false =>
        rw [(endsWord_eq_false_iff.mp begins).2.2.2.2.2.2] at isBlank
        cases isBlank
  apart _ left sign := by
    cases sign
    cases isBlank

/-- So does a pipe. -/
theorem breaksWord_pipe (text further : List Char) : BreaksWord text ('|' :: further) where
  ends := rfl
  apart _ left sign := by cases sign

/-! ## Quotes that are never closed -/

/-- Only a quote that is never closed begins no token. -/
theorem readToken_eq_none_iff {c : Char} {rest : List Char} :
    readToken c rest = none ↔ c = '"' ∧ NeverCloses rest := by
  rw [← takeQuoted_eq_none_iff]
  constructor
  · intro unread
    unfold readToken at unread
    split at unread
    case h_7 rest => exact ⟨rfl, Option.map_eq_none_iff.mp unread⟩
    case h_8 => split at unread <;> cases unread
    all_goals cases unread
  · rintro ⟨rfl, unclosed⟩
    exact Option.map_eq_none_iff.mpr unclosed

theorem tokensFrom_quote {rest : List Char} (neverCloses : NeverCloses rest) (offset : Nat) :
    tokensFrom offset ('"' :: rest) = .error (.unterminatedQuote offset) := by
  rw [tokensFrom]
  split
  · rfl
  · next read =>
      rw [readToken_eq_none_iff.mpr ⟨rfl, neverCloses⟩] at read
      cases read

/-- Cutting fails at a quote behind whole tokens that nothing closes, and nowhere else. -/
theorem tokensFrom_eq_error_iff {offset : Nat} {text : List Char} {error : QueryError} :
    tokensFrom offset text = .error error ↔
      ∃ before rest tokens, text = before ++ '"' :: rest ∧ tokensFrom offset before = .ok tokens ∧
        (∀ token ∈ tokens.getLast?, token.kind.isBareWord = false) ∧ NeverCloses rest ∧
        error = .unterminatedQuote (offset + byteLength before) := by
  constructor
  · intro fails
    fun_induction tokensFrom offset text with
    | case1 => cases fails
    | case2 offset c rest unread =>
        cases fails
        obtain ⟨rfl, neverCloses⟩ := readToken_eq_none_iff.mp unread
        exact ⟨[], rest, [], rfl, tokensFrom_nil_eq_ok_iff.mpr rfl, by simp, neverCloses, rfl⟩
    | case3 offset c rest kind inside left read token inductionHypothesis =>
        have fails := (bind_eq_error_iff.mp fails).resolve_right (by simp)
        obtain ⟨before, behind, tokens, rfl, cut, apart, neverCloses, rfl⟩ :=
          inductionHypothesis fails
        have reads := readToken_eq_some_iff.mp read
        obtain ⟨text, text_eq, readsBefore⟩ := reads.of_append fun left _ => by simp
        refine ⟨text, behind, token :: tokens, text_eq, readsBefore.tokensFrom cut, ?_,
          neverCloses, ?_⟩
        · cases tokens with
          | nil =>
              rw [eq_nil_of_tokensFrom_nil cut] at reads
              intro last isLast
              obtain rfl := Option.some.inj isLast
              refine Bool.eq_false_iff.mpr fun bare => ?_
              cases reads.endsWord_of_isBareWord bare
          | cons other others => rwa [List.getLast?_cons_cons]
        · rw [← readsBefore.written_append offset, byteLength_append, Nat.add_assoc]
  · rintro ⟨before, rest, tokens, rfl, cut, apart, neverCloses, rfl⟩
    have breaks (last : Token) (isLast : last ∈ tokens.getLast?)
        (bare : last.kind.isBareWord = true) : BreaksWord before ('"' :: rest) := by
      rw [apart last isLast] at bare
      cases bare
    rw [tokensFrom_append cut breaks, tokensFrom_quote neverCloses]
    rfl

theorem tokenize_eq_error_iff {query : String} {error : QueryError} :
    tokenize query = .error error ↔
      ∃ before rest, OpensUnclosed query before rest ∧
        error = .unterminatedQuote before.utf8ByteSize := by
  unfold tokenize
  rw [bind_eq_error_iff, or_iff_left (by simp), tokensFrom_eq_error_iff]
  constructor
  · rintro ⟨before, rest, tokens, query_eq, cut, apart, neverCloses, rfl⟩
    have boundary : ∃ tokens, tokenize (String.ofList before) = .ok tokens ∧
        ∀ token ∈ (beforeEnd tokens).getLast?, token.kind.isBareWord = false := by
      refine ⟨_, tokenize_eq_ok_iff.mpr ⟨tokens, by rwa [String.toList_ofList], rfl⟩, ?_⟩
      rwa [beforeEnd_append_marker cut _ rfl]
    refine ⟨String.ofList before, String.ofList rest, ⟨?_, boundary, ?_⟩, ?_⟩
    · rw [← String.toList_inj]
      simp [query_eq]
    · rwa [String.toList_ofList]
    · rw [Nat.zero_add, utf8ByteSize_eq_byteLength, String.toList_ofList]
  · rintro ⟨before, rest, ⟨rfl, ⟨tokens, tokenized, apart⟩, neverCloses⟩, rfl⟩
    obtain ⟨cut, cutEq, rfl⟩ := tokenize_eq_ok_iff.mp tokenized
    rw [beforeEnd_append_marker cutEq _ rfl] at apart
    refine ⟨before.toList, rest.toList, cut, ?_, cutEq, apart, neverCloses, ?_⟩
    · simp
    · rw [Nat.zero_add, utf8ByteSize_eq_byteLength]

/-- The tokens of a query cover it from its first byte to the marker at its end, each spelled by
its own part of the query and words as long as they can be.  There are tokens unless a double quote
that no word goes on with is never closed, and then the quote is what the error points at. -/
theorem tokenize_partitions (query : String) :
    (∀ tokens, tokenize query = .ok tokens → Partitions query tokens) ∧
      ∀ error, tokenize query = .error error ↔
        ∃ before rest, OpensUnclosed query before rest ∧
          error = .unterminatedQuote before.utf8ByteSize :=
  ⟨fun _ tokenized => partitions_of_tokenize tokenized, fun _ => tokenize_eq_error_iff⟩

example : tokenize "é!=\"a\\\"|b\"" =
    .ok [⟨.word, "é", 0⟩, ⟨.notEquals, "!=", 2⟩, ⟨.quoted, "a\"|b", 4⟩, ⟨.endOfInput, "", 11⟩] := by
  cbv

-- The first quote belongs to the word in front of it.
example : tokenize "é\" \"|b" = .error (.unterminatedQuote 4) := by cbv

end LogQuery.Query
