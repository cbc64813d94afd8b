import LogQuery.Proofs.Outcome
import LogQuery.Proofs.Query.Token.Lexer
import LogQuery.Query.Search.Reader
import Mathlib.Data.List.DropRight

/-!
# What a search is read from

Reading a search looks at the kinds and the texts of its tokens.  Where the tokens stand, where the
query ends, and white space at either end show in errors only, so a search that can be read is read
alike from every text that has the same tokens otherwise.
-/

namespace LogQuery.Query

/-- The other tokens have the same kinds and texts, perhaps without white space at the end. -/
inductive ReadsAlike : List Token → List Token → Prop where
  | blanks {tokens : List Token} (blank : ∀ token ∈ tokens, token.isBlank = true) :
      ReadsAlike tokens []
  | cons {token other : Token} {tokens others : List Token} (kind_eq : token.kind = other.kind)
      (text_eq : token.text = other.text) (alike : ReadsAlike tokens others) :
      ReadsAlike (token :: tokens) (other :: others)

theorem Token.isBlank_congr {token other : Token} (kind_eq : token.kind = other.kind) :
    token.isBlank = other.isBlank :=
  congrArg (· == .blank) kind_eq

theorem Token.isValue_congr {token other : Token} (kind_eq : token.kind = other.kind) :
    token.isValue = other.isValue :=
  congrArg TokenKind.isValue kind_eq

theorem Token.isBlank_eq_false_of_kind {token : Token} {kind : TokenKind}
    (kind_eq : token.kind = kind) (notBlank : kind ≠ .blank) : token.isBlank = false := by
  rw [Token.isBlank, kind_eq]
  exact beq_eq_false_iff_ne.mpr notBlank

theorem Token.isBlank_eq_false_of_isValue {token : Token} (isValue : token.isValue = true) :
    token.isBlank = false := by
  unfold Token.isValue at isValue
  unfold Token.isBlank
  cases kind_eq : token.kind with
  | word | quoted => rfl
  | blank | equals | notEquals | openParen | closeParen | pipe | comma | inKeyword | notKeyword |
    endOfInput =>
      rw [kind_eq] at isValue
      cases isValue

theorem isBlank_eq_false_of_skipBlanks {tokens rest : List Token} {first : Token}
    (skipped : skipBlanks tokens = first :: rest) : first.isBlank = false := by
  have notBlank := List.head?_dropWhile_not Token.isBlank tokens
  rw [show tokens.dropWhile Token.isBlank = first :: rest from skipped] at notBlank
  exact notBlank

theorem skipBlanks_eq_nil_iff {tokens : List Token} :
    skipBlanks tokens = [] ↔ ∀ token ∈ tokens, token.isBlank = true :=
  List.dropWhile_eq_nil_iff

theorem skipBlanks_of_not_isBlank {first : Token} (notBlank : first.isBlank = false)
    (rest : List Token) : skipBlanks (first :: rest) = first :: rest :=
  List.dropWhile_cons_of_neg (by rw [notBlank]; exact Bool.false_ne_true)

theorem skipBlanks_append {blanks : List Token} (blank : ∀ token ∈ blanks, token.isBlank = true)
    (rest : List Token) : skipBlanks (blanks ++ rest) = skipBlanks rest :=
  List.dropWhile_append_of_pos blank

theorem skipBlanks_append_cons {blanks : List Token} {token : Token}
    (blank : ∀ token ∈ blanks, token.isBlank = true) (notBlank : token.isBlank = false)
    (rest : List Token) : skipBlanks (blanks ++ token :: rest) = token :: rest := by
  rw [skipBlanks_append blank, skipBlanks_of_not_isBlank notBlank]

@[simp] theorem skipBlanks_skipBlanks (tokens : List Token) :
    skipBlanks (skipBlanks tokens) = skipBlanks tokens :=
  List.dropWhile_idempotent Token.isBlank tokens

namespace ReadsAlike

variable {tokens others : List Token}

theorem refl (tokens : List Token) : ReadsAlike tokens tokens := by
  induction tokens with
  | nil => exact .blanks (by simp)
  | cons token tokens inductionHypothesis => exact .cons rfl rfl inductionHypothesis

/-- The same tokens further on. -/
theorem map_shift (tokens : List Token) (distance : Nat) :
    ReadsAlike tokens (tokens.map (Token.shift distance)) := by
  induction tokens with
  | nil => exact .blanks (by simp)
  | cons token tokens inductionHypothesis => exact .cons rfl rfl inductionHypothesis

/-- The same tokens nearer to the front, and without white space behind them. -/
theorem map_shift_append (tokens : List Token) (distance : Nat) {blanks : List Token}
    (blank : ∀ token ∈ blanks, token.isBlank = true) :
    ReadsAlike (tokens.map (Token.shift distance) ++ blanks) tokens := by
  induction tokens with
  | nil => exact .blanks blank
  | cons token tokens inductionHypothesis => exact .cons rfl rfl inductionHypothesis

theorem exists_cons {token : Token} (alike : ReadsAlike (token :: tokens) others)
    (notBlank : token.isBlank = false) :
    ∃ other others', others = other :: others' ∧ token.kind = other.kind ∧
      token.text = other.text ∧ ReadsAlike tokens others' := by
  cases alike with
  | blanks blank =>
      rw [blank token List.mem_cons_self] at notBlank
      cases notBlank
  | cons kind_eq text_eq alike => exact ⟨_, _, rfl, kind_eq, text_eq, alike⟩

theorem skipBlanks (alike : ReadsAlike tokens others) :
    ReadsAlike (Query.skipBlanks tokens) (Query.skipBlanks others) := by
  induction alike with
  | blanks blank =>
      rw [skipBlanks_eq_nil_iff.mpr blank]
      exact .blanks (by simp)
  | @cons token other tokens others kind_eq text_eq alike inductionHypothesis =>
      have isBlank_eq := Token.isBlank_congr kind_eq
      cases blank : token.isBlank with
      | true =>
          unfold Query.skipBlanks
          rw [List.dropWhile_cons_of_pos blank, List.dropWhile_cons_of_pos (isBlank_eq ▸ blank)]
          exact inductionHypothesis
      | false =>
          rw [skipBlanks_of_not_isBlank blank, skipBlanks_of_not_isBlank (isBlank_eq ▸ blank)]
          exact .cons kind_eq text_eq alike

theorem skipBlanks_eq_nil (alike : ReadsAlike tokens others)
    (skipped : Query.skipBlanks tokens = []) : Query.skipBlanks others = [] := by
  have alikeSkipped := alike.skipBlanks
  rw [skipped] at alikeSkipped
  generalize Query.skipBlanks others = left at alikeSkipped
  cases alikeSkipped with
  | blanks _ => rfl

theorem exists_skipBlanks_eq_cons {first : Token} {rest : List Token}
    (alike : ReadsAlike tokens others) (skipped : Query.skipBlanks tokens = first :: rest) :
    ∃ first' rest', Query.skipBlanks others = first' :: rest' ∧ first.kind = first'.kind ∧
      first.text = first'.text ∧ ReadsAlike rest rest' := by
  have alikeSkipped := alike.skipBlanks
  rw [skipped] at alikeSkipped
  exact alikeSkipped.exists_cons (isBlank_eq_false_of_skipBlanks skipped)

end ReadsAlike

section Alike

variable {finish : Stop} (finish' : Stop) {tokens others left : List Token}

theorem readValue_eq_ok_iff {wanted : Wanted} {value : String} :
    readValue wanted finish tokens = .ok (value, left) ↔
      ∃ token, tokens = token :: left ∧ token.isValue = true ∧ token.text = value := by
  unfold readValue
  constructor
  · intro read
    split at read
    · next token rest =>
        split at read
        · next isValue =>
            cases read
            exact ⟨token, rfl, isValue, rfl⟩
        · cases read
    · cases read
  · rintro ⟨token, rfl, isValue, rfl⟩
    exact if_pos isValue

theorem exists_readValue_of_alike {wanted : Wanted} {value : String}
    (alike : ReadsAlike tokens others)
    (read : readValue wanted finish tokens = .ok (value, left)) :
    ∃ left', readValue wanted finish' others = .ok (value, left') ∧ ReadsAlike left left' := by
  obtain ⟨token, rfl, isValue, rfl⟩ := readValue_eq_ok_iff.mp read
  obtain ⟨other, others', rfl, kind_eq, text_eq, alike'⟩ :=
    alike.exists_cons (Token.isBlank_eq_false_of_isValue isValue)
  have isValue' : other.isValue = true := Token.isValue_congr kind_eq ▸ isValue
  exact ⟨others', readValue_eq_ok_iff.mpr ⟨other, rfl, isValue', text_eq.symm⟩, alike'⟩

theorem exists_readListItems_of_alike {state : ListState} {values : List String}
    (alike : ReadsAlike tokens others)
    (read : readListItems finish state tokens = .ok (values, left)) :
    ∃ left', readListItems finish' state others = .ok (values, left') ∧ ReadsAlike left left' := by
  fun_induction readListItems finish state tokens generalizing values left others with
  | case1 => cases read
  | case2 state token rest blank inductionHypothesis =>
      cases alike with
      | blanks allBlank =>
          refine inductionHypothesis (.blanks fun token member => ?_) read
          exact allBlank token (List.mem_cons_of_mem _ member)
      | cons kind_eq text_eq alike =>
          rw [readListItems, if_pos (Token.isBlank_congr kind_eq ▸ blank)]
          exact inductionHypothesis alike read
  | case3 state token rest notBlank closes =>
      cases read
      obtain ⟨other, others', rfl, kind_eq, -, alike'⟩ :=
        alike.exists_cons (Bool.eq_false_iff.mpr notBlank)
      refine ⟨others', ?_, alike'⟩
      rw [readListItems, if_neg (Token.isBlank_congr kind_eq ▸ notBlank),
        if_pos (kind_eq ▸ closes)]
  | case4 state token rest notBlank notClosing isValue inductionHypothesis =>
      obtain ⟨⟨others', left'⟩, readOthers, made⟩ := bind_eq_ok.mp read
      cases made
      obtain ⟨other, others', rfl, kind_eq, text_eq, alike'⟩ :=
        alike.exists_cons (Bool.eq_false_iff.mpr notBlank)
      obtain ⟨left', readOthers', alikeLeft⟩ := inductionHypothesis alike' readOthers
      refine ⟨left', ?_, alikeLeft⟩
      rw [readListItems, if_neg (Token.isBlank_congr kind_eq ▸ notBlank),
        if_neg (kind_eq ▸ notClosing), if_pos (Token.isValue_congr kind_eq ▸ isValue), ← text_eq]
      exact bind_eq_ok.mpr ⟨_, readOthers', rfl⟩
  | case5 state token rest notBlank notClosing notValue separates inductionHypothesis =>
      obtain ⟨other, others', rfl, kind_eq, text_eq, alike'⟩ :=
        alike.exists_cons (Bool.eq_false_iff.mpr notBlank)
      rw [readListItems, if_neg (Token.isBlank_congr kind_eq ▸ notBlank),
        if_neg (kind_eq ▸ notClosing), if_neg (Token.isValue_congr kind_eq ▸ notValue),
        if_pos (kind_eq ▸ separates)]
      exact inductionHypothesis alike' read
  | case6 => cases read

theorem exists_readList_of_alike {values : List String} (alike : ReadsAlike tokens others)
    (read : readList finish tokens = .ok (values, left)) :
    ∃ left', readList finish' others = .ok (values, left') ∧ ReadsAlike left left' := by
  unfold readList at read
  split at read
  · next first rest skipped =>
      obtain ⟨first', rest', skipped', kind_eq, -, alike'⟩ :=
        alike.exists_skipBlanks_eq_cons skipped
      split at read
      · next opens =>
          rw [readList, skipped']
          dsimp only
          rw [if_pos (kind_eq ▸ opens)]
          exact exists_readListItems_of_alike finish' alike' read
      · cases read
  · cases read

/-- The same follower, with tokens behind it that read alike. -/
inductive Follower.Alike : Follower → Follower → Prop where
  | equals {rest rest' : List Token} (alike : ReadsAlike rest rest') :
      Alike (.equals rest) (.equals rest')
  | notEquals {rest rest' : List Token} (alike : ReadsAlike rest rest') :
      Alike (.notEquals rest) (.notEquals rest')
  | inList {rest rest' : List Token} (alike : ReadsAlike rest rest') :
      Alike (.inList rest) (.inList rest')
  | notInList {rest rest' : List Token} (alike : ReadsAlike rest rest') :
      Alike (.notInList rest) (.notInList rest')
  | other : Alike .other .other

theorem Follower.list_of_alike (alike : ReadsAlike tokens others) :
    Follower.Alike (Follower.list tokens) (Follower.list others) := by
  unfold Follower.list
  cases skipped : skipBlanks tokens with
  | nil =>
      rw [alike.skipBlanks_eq_nil skipped]
      exact .other
  | cons first rest =>
      obtain ⟨first', rest', skipped', kind_eq, -, alike'⟩ :=
        alike.exists_skipBlanks_eq_cons skipped
      rw [skipped']
      dsimp only
      rw [← kind_eq]
      split
      · exact .inList alike'
      · cases skippedAgain : skipBlanks rest with
        | nil =>
            rw [alike'.skipBlanks_eq_nil skippedAgain]
            exact .other
        | cons second rest =>
            obtain ⟨second', rest', skippedAgain', kind_eq', -, alike''⟩ :=
              alike'.exists_skipBlanks_eq_cons skippedAgain
            rw [skippedAgain']
            dsimp only
            rw [← kind_eq']
            split
            · exact .notInList alike''
            · exact .other
      · exact .other

theorem Follower.ofTokens_of_alike (alike : ReadsAlike tokens others) :
    Follower.Alike (Follower.ofTokens tokens) (Follower.ofTokens others) := by
  have alikeList := Follower.list_of_alike alike
  cases alike with
  | blanks blank =>
      unfold Follower.ofTokens
      split
      · next first rest =>
          have isBlank := eq_of_beq (blank first List.mem_cons_self)
          rw [isBlank]
          exact alikeList
      · exact .other
  | cons kind_eq text_eq alike =>
      unfold Follower.ofTokens
      dsimp only
      rw [← kind_eq]
      split
      · exact .equals alike
      · exact .notEquals alike
      · exact alikeList

theorem exists_readWordClause_of_alike {word : String} {clause : Clause}
    (alike : ReadsAlike tokens others)
    (read : readWordClause finish word tokens = .ok (clause, left)) :
    ∃ left', readWordClause finish' word others = .ok (clause, left') ∧
      ReadsAlike left left' := by
  have alikeFollower := Follower.ofTokens_of_alike alike
  unfold readWordClause at read ⊢
  generalize Follower.ofTokens tokens = follower at alikeFollower read
  generalize Follower.ofTokens others = follower' at alikeFollower
  cases alikeFollower with
  | equals alikeRest | notEquals alikeRest =>
      obtain ⟨⟨value, left'⟩, readValue, made⟩ := bind_eq_ok.mp read
      cases made
      obtain ⟨left', readValue', alikeLeft⟩ :=
        exists_readValue_of_alike finish' alikeRest.skipBlanks readValue
      exact ⟨left', bind_eq_ok.mpr ⟨_, readValue', rfl⟩, alikeLeft⟩
  | inList alikeRest | notInList alikeRest =>
      obtain ⟨⟨values, left'⟩, readList, made⟩ := bind_eq_ok.mp read
      cases made
      obtain ⟨left', readList', alikeLeft⟩ := exists_readList_of_alike finish' alikeRest readList
      exact ⟨left', bind_eq_ok.mpr ⟨_, readList', rfl⟩, alikeLeft⟩
  | other =>
      cases read
      exact ⟨others, rfl, alike⟩

theorem exists_readClause_of_alike {first first' : Token} {clause : Clause}
    (kind_eq : first.kind = first'.kind) (text_eq : first.text = first'.text)
    (alike : ReadsAlike tokens others)
    (read : readClause finish first tokens = .ok (clause, left)) :
    ∃ left', readClause finish' first' others = .ok (clause, left') ∧ ReadsAlike left left' := by
  unfold readClause at read ⊢
  rw [← kind_eq, ← text_eq]
  split at read
  · exact exists_readWordClause_of_alike finish' alike read
  · exact exists_readWordClause_of_alike finish' alike read
  · obtain ⟨⟨value, left'⟩, readValue, made⟩ := bind_eq_ok.mp read
    cases made
    obtain ⟨left', readValue', alikeLeft⟩ :=
      exists_readValue_of_alike finish' alike.skipBlanks readValue
    exact ⟨left', bind_eq_ok.mpr ⟨_, readValue', rfl⟩, alikeLeft⟩
  · cases read

/-- Clauses are read one after the other, with white space before each. -/
theorem readClauses_eq_ok_iff {clauses : List Clause} :
    readClauses finish tokens = .ok clauses ↔
      skipBlanks tokens = [] ∧ clauses = [] ∨
        ∃ first rest clause left others, skipBlanks tokens = first :: rest ∧
          readClause finish first rest = .ok (clause, left) ∧
          readClauses finish left = .ok others ∧ clauses = clause :: others := by
  rw [readClauses]
  split
  · next skipped => simp [skipped, eq_comm]
  · next first rest skipped =>
      simp only [skipped, List.cons.injEq, reduceCtorEq, false_and, false_or]
      split
      · next error unread =>
          constructor
          · intro impossible
            cases impossible
          · rintro ⟨_, _, clause, left, others, ⟨rfl, rfl⟩, read, -⟩
            rw [read] at unread
            cases unread
      · next clause left read =>
          rw [bind_eq_ok]
          constructor
          · rintro ⟨others, readOthers, made⟩
            cases made
            exact ⟨first, rest, clause, left, others, ⟨rfl, rfl⟩, read, readOthers, rfl⟩
          · rintro ⟨_, _, clause', left', others, ⟨rfl, rfl⟩, read', readOthers, rfl⟩
            rw [read'] at read
            cases read
            exact ⟨others, readOthers, rfl⟩

/-- Tokens that read alike make the same clauses. -/
theorem readClauses_of_alike {clauses : List Clause} (alike : ReadsAlike tokens others)
    (read : readClauses finish tokens = .ok clauses) : readClauses finish' others = .ok clauses := by
  induction clauses generalizing tokens others with
  | nil =>
      rcases readClauses_eq_ok_iff.mp read with ⟨skipped, -⟩ | ⟨_, _, _, _, _, -, -, -, made⟩
      · exact readClauses_eq_ok_iff.mpr (.inl ⟨alike.skipBlanks_eq_nil skipped, rfl⟩)
      · cases made
  | cons clause clauses inductionHypothesis =>
      rcases readClauses_eq_ok_iff.mp read with
        ⟨-, made⟩ | ⟨first, rest, clause', left, clauses', skipped, readFirst, readOthers, made⟩
      · cases made
      · cases made
        obtain ⟨first', rest', skipped', kind_eq, text_eq, alikeRest⟩ :=
          alike.exists_skipBlanks_eq_cons skipped
        obtain ⟨left', readFirst', alikeLeft⟩ :=
          exists_readClause_of_alike finish' kind_eq text_eq alikeRest readFirst
        exact readClauses_eq_ok_iff.mpr (.inr ⟨first', rest', clause, left', clauses, skipped',
          readFirst', inductionHypothesis alikeLeft readOthers, rfl⟩)

/-- White space at the front makes no difference. -/
theorem readClauses_skipBlanks (finish : Stop) (tokens : List Token) (clauses : List Clause) :
    readClauses finish (skipBlanks tokens) = .ok clauses ↔
      readClauses finish tokens = .ok clauses := by
  rw [readClauses_eq_ok_iff, readClauses_eq_ok_iff, skipBlanks_skipBlanks]

/-- In a search that can be read, a word and an equals sign at the front are followed by a value:
if they stand apart, the sign begins a clause of its own, which cannot be read. -/
theorem exists_value_of_readClauses {clauses : List Clause} {key sign : Token}
    {rest after : List Token} (read : readClauses finish tokens = .ok clauses)
    (begins : skipBlanks tokens = key :: rest) (isWord : key.kind = .word)
    (goesOn : skipBlanks rest = sign :: after) (isSign : sign.kind = .equals) :
    ∃ value left, skipBlanks after = value :: left ∧ value.isValue = true := by
  rcases readClauses_eq_ok_iff.mp read with
    ⟨none, -⟩ | ⟨first, rest', clause, left, others, begins', readFirst, readOthers, -⟩
  · rw [none] at begins
    cases begins
  · rw [begins'] at begins
    cases begins
    rw [readClause, isWord] at readFirst
    dsimp only at readFirst
    unfold readWordClause at readFirst
    cases rest with
    | nil => cases goesOn
    | cons next rest =>
        cases blank : next.isBlank with
        | true =>
            have apart : Follower.ofTokens (next :: rest) = .other := by
              unfold Follower.ofTokens Follower.list
              dsimp only
              rw [eq_of_beq blank, goesOn]
              dsimp only
              rw [isSign]
            rw [apart] at readFirst
            cases readFirst
            rcases readClauses_eq_ok_iff.mp readOthers with
              ⟨none, -⟩ | ⟨second, _, _, _, _, begins', readSecond, -, -⟩
            · rw [none] at goesOn
              cases goesOn
            · rw [begins'] at goesOn
              cases goesOn
              rw [readClause, isSign] at readSecond
              cases readSecond
        | false =>
            rw [skipBlanks_of_not_isBlank blank] at goesOn
            cases goesOn
            have direct : Follower.ofTokens (sign :: after) = .equals after := by
              unfold Follower.ofTokens
              dsimp only
              rw [isSign]
            rw [direct] at readFirst
            obtain ⟨⟨text, left'⟩, readText, -⟩ := bind_eq_ok.mp readFirst
            obtain ⟨value, skipped, isValue, -⟩ := readValue_eq_ok_iff.mp readText
            exact ⟨value, left', skipped, isValue⟩

end Alike

/-- Where a text ends does not matter to a search that can be read. -/
theorem Search.read_eq_ok_iff {text : String} {search : Search} (finish : Stop) :
    Search.read text = .ok search ↔
      ∃ tokens clauses, tokensFrom 0 text.toList = .ok tokens ∧
        readClauses finish tokens = .ok clauses ∧ Search.ofClauses clauses = search := by
  unfold Search.read Search.ofTokens
  simp only [bind_eq_ok, mapError_eq_ok_iff, tokenize_eq_ok_iff, Except.ok.injEq]
  constructor
  · rintro ⟨_, ⟨tokens, cut, rfl⟩, clauses, read, made⟩
    rw [beforeEnd_append_marker cut _ rfl] at read
    exact ⟨tokens, clauses, cut, readClauses_of_alike finish (.refl tokens) read, made⟩
  · rintro ⟨tokens, clauses, cut, read, made⟩
    refine ⟨_, ⟨tokens, cut, rfl⟩, clauses, ?_, made⟩
    rw [beforeEnd_append_marker cut _ rfl]
    exact readClauses_of_alike _ (.refl tokens) read

/-- The empty text is the search for everything. -/
theorem Search.read_empty : Search.read "" = .ok {} :=
  (Search.read_eq_ok_iff (.endOfInput none)).mpr ⟨[], [], tokensFrom_nil_eq_ok_iff.mpr rfl,
    readClauses_eq_ok_iff.mpr (.inl ⟨rfl, rfl⟩), rfl⟩

end LogQuery.Query
