import LogQuery.Proofs.Query.Search.Spelling
import LogQuery.Proofs.Query.Token.Partition

/-!
# How far a text is the beginning of a search

Reading a search from left to right, no more has to be kept in mind than what may come next, which
`Progress` says.  From every such state some tokens complete a search, so that the first token for
which there is no next state is the first with which the text is no beginning of a search.  The
reader, although it looks ahead for `IN` and `NOT IN`, fails at this token, or at the end of the text
if only the end comes too early.
-/

namespace LogQuery.Query

/-- What an error points at. -/
def GrammarError.stop : GrammarError → Stop
  | .unexpected found => .found found
  | .expected _ found => found
  | .emptyStage name => .found name

theorem GrammarError.offset_eq (error : GrammarError) : error.offset = error.stop.offset := by
  cases error with
  | unexpected found => rfl
  | expected wanted found => rfl
  | emptyStage name => rfl

/-- Where reading a search stands between two tokens. -/
inductive Progress where
  /-- Between clauses. -/
  | clauses
  /-- Directly behind a word or quoted text that begins a clause. -/
  | word
  /-- Behind white space behind such a word. -/
  | apart
  /-- Behind a `NOT` behind such a word, which belongs to it if `IN` comes next. -/
  | negation
  /-- In front of the value of a comparison or of a `NOT`. -/
  | value
  /-- In front of the opening parenthesis of a list. -/
  | list
  | items (state : ListState)
  deriving Repr, DecidableEq

namespace Progress

/-- Where reading stands behind one more token, if a search can go on with it. -/
def next : Progress → TokenKind → Option Progress
  | .clauses, .blank => some .clauses
  | .clauses, .word | .clauses, .quoted => some .word
  | .clauses, .notKeyword => some .value
  | .word, .equals | .word, .notEquals => some .value
  | .word, .blank | .apart, .blank => some .apart
  | .word, .word | .word, .quoted | .apart, .word | .apart, .quoted => some .word
  | .word, .inKeyword | .apart, .inKeyword | .negation, .inKeyword => some .list
  | .word, .notKeyword | .apart, .notKeyword => some .negation
  | .negation, .blank => some .negation
  | .negation, .word | .negation, .quoted => some .clauses
  | .value, .blank => some .value
  | .value, .word | .value, .quoted => some .clauses
  | .list, .blank => some .list
  | .list, .openParen => some (.items .opened)
  | .items state, .blank => some (.items state)
  | .items .opened, .closeParen | .items .separator, .closeParen => some .clauses
  | .items .opened, .word | .items .opened, .quoted | .items .value, .word
  | .items .value, .quoted => some (.items .separator)
  | .items .separator, .comma => some (.items .value)
  | _, _ => none

/-- Whether a search may end here. -/
def mayEnd : Progress → Bool
  | .clauses | .word | .apart => true
  | _ => false

/-- The first token that no search goes on with, or the end if it comes too early. -/
def fault? (finish : Stop) : Progress → List Token → Option Stop
  | state, [] => if state.mayEnd then none else some finish
  | state, token :: rest =>
      match state.next token.kind with
      | some reached => reached.fault? finish rest
      | none => some (.found token)

/-- Tokens that complete a search. -/
def completion : Progress → List Token
  | .clauses | .word | .apart => []
  | .negation | .value => [⟨.word, "a", 0⟩]
  | .list => [⟨.openParen, "(", 0⟩, ⟨.closeParen, ")", 1⟩]
  | .items .value => [⟨.word, "a", 0⟩, ⟨.closeParen, ")", 1⟩]
  | .items _ => [⟨.closeParen, ")", 0⟩]

section Faults

variable {finish : Stop} {state reached : Progress} {tokens rest : List Token} {token : Token}
  {stop : Stop}

theorem fault?_cons (goesOn : state.next token.kind = some reached) :
    state.fault? finish (token :: rest) = reached.fault? finish rest := by
  rw [fault?, goesOn]

theorem fault?_cons_of_none (dead : state.next token.kind = none) :
    state.fault? finish (token :: rest) = some (.found token) := by
  rw [fault?, dead]

theorem fault?_completion (state : Progress) : state.fault? finish state.completion = none := by
  cases state with
  | clauses | word | apart | negation | value | list => rfl
  | items state =>
      cases state with
      | opened | value | separator => rfl

/-- A state that white space does not change. -/
theorem fault?_append_blanks (stays : state.next .blank = some state) {blanks : List Token}
    (blank : AllBlank blanks) (rest : List Token) :
    state.fault? finish (blanks ++ rest) = state.fault? finish rest := by
  induction blanks with
  | nil => rfl
  | cons token blanks inductionHypothesis =>
      obtain ⟨tokenBlank, othersBlank⟩ := List.forall_mem_cons.mp blank
      rw [List.cons_append, fault?_cons (by rwa [eq_of_beq tokenBlank])]
      exact inductionHypothesis othersBlank

theorem fault?_skipBlanks (stays : state.next .blank = some state) (tokens : List Token) :
    state.fault? finish (skipBlanks tokens) = state.fault? finish tokens := by
  obtain ⟨blanks, blank, tokens_eq⟩ := exists_eq_append_skipBlanks tokens
  have skipped : state.fault? finish (blanks ++ skipBlanks tokens) = _ :=
    fault?_append_blanks stays blank (skipBlanks tokens)
  rw [← tokens_eq] at skipped
  exact skipped.symm

theorem next_endOfInput (state : Progress) : state.next .endOfInput = none := by
  cases state with
  | clauses | word | apart | negation | value | list => rfl
  | items state =>
      cases state with
      | opened | value | separator => rfl

/-- No token of a search marks the end of the query. -/
theorem kind_ne_endOfInput_of_fault? (sound : state.fault? finish tokens = none) {token : Token}
    (member : token ∈ tokens) : token.kind ≠ .endOfInput := by
  induction tokens generalizing state with
  | nil => cases member
  | cons first rest inductionHypothesis =>
      cases goesOn : state.next first.kind with
      | none =>
          rw [fault?_cons_of_none goesOn] at sound
          cases sound
      | some reached =>
          rw [fault?_cons goesOn] at sound
          rcases List.mem_cons.mp member with rfl | behind
          · intro isMarker
            rw [isMarker, next_endOfInput] at goesOn
            cases goesOn
          · exact inductionHypothesis sound behind

/-- Where a text ends does not matter if it is a search. -/
theorem fault?_eq_none_congr (sound : state.fault? finish tokens = none) (finish' : Stop) :
    state.fault? finish' tokens = none := by
  induction tokens generalizing state with
  | nil =>
      rw [fault?] at sound ⊢
      split at sound
      · next ends => exact if_pos ends
      · cases sound
  | cons first rest inductionHypothesis =>
      cases goesOn : state.next first.kind with
      | none =>
          rw [fault?_cons_of_none goesOn] at sound
          cases sound
      | some reached =>
          rw [fault?_cons goesOn] at sound ⊢
          exact inductionHypothesis sound

/-- The tokens in front of a fault can be gone on with, and with the token at fault they cannot. -/
theorem split_of_fault? (faulty : state.fault? finish tokens = some stop) :
    (∃ front token back, tokens = front ++ token :: back ∧ stop = .found token ∧
      (∃ more, state.fault? finish (front ++ more) = none) ∧
      ∀ more, state.fault? finish (front ++ token :: more) = some (.found token)) ∨
    stop = finish ∧ ∃ more, state.fault? finish (tokens ++ more) = none := by
  induction tokens generalizing state with
  | nil =>
      rw [fault?] at faulty
      split at faulty
      · cases faulty
      · exact .inr ⟨(Option.some.inj faulty).symm, state.completion, fault?_completion state⟩
  | cons first rest inductionHypothesis =>
      cases goesOn : state.next first.kind with
      | none =>
          rw [fault?_cons_of_none goesOn] at faulty
          exact .inl ⟨[], first, rest, rfl, (Option.some.inj faulty).symm,
            ⟨state.completion, fault?_completion state⟩, fun _ => fault?_cons_of_none goesOn⟩
      | some reached =>
          rw [fault?_cons goesOn] at faulty
          rcases inductionHypothesis faulty with
            ⟨front, token, back, rfl, rfl, ⟨more, sound⟩, dead⟩ | ⟨rfl, more, sound⟩
          · exact .inl ⟨first :: front, token, back, rfl, rfl,
              ⟨more, (fault?_cons goesOn).trans sound⟩,
              fun more => (fault?_cons goesOn).trans (dead more)⟩
          · exact .inr ⟨rfl, more, (fault?_cons goesOn).trans sound⟩

end Faults

/-! ## Where readers fail -/

/-- Where reading fails, if not at once, then behind what has been read. -/
def faultBehind {α : Type} (behind : α → Option Stop) : Except GrammarError α → Option Stop
  | .ok result => behind result
  | .error error => some error.stop

/-- Where reading fails, if not at once, then in the clauses that follow. -/
def faultAfter {α : Type} (finish : Stop) :
    Except GrammarError (α × List Token) → Option Stop :=
  faultBehind fun read => clauses.fault? finish read.2

section Readers

variable {α β : Type} {finish : Stop} {tokens : List Token}

theorem faultAfter_translate (outcome : Except GrammarError (α × List Token)) (translate : α → β) :
    faultAfter finish (do
      let (result, left) ← outcome
      .ok (translate result, left)) = faultAfter finish outcome := by
  cases outcome with
  | ok read => rfl
  | error error => rfl

theorem faultAfter_readValue (wanted : Wanted) (finish : Stop) (tokens : List Token) :
    faultAfter finish (readValue wanted finish (skipBlanks tokens)) =
      value.fault? finish tokens := by
  rw [← fault?_skipBlanks rfl tokens]
  cases skipped : skipBlanks tokens with
  | nil => rfl
  | cons token rest =>
      have notBlank := isBlank_eq_false_of_skipBlanks skipped
      obtain ⟨kind, text, offset⟩ := token
      cases kind with
      | blank => cases notBlank
      | word | quoted | equals | notEquals | openParen | closeParen | pipe | comma | inKeyword
      | notKeyword | endOfInput => rfl

theorem next_items_of_isValue {state : ListState} {token : Token} (isValue : token.isValue = true)
    (awaits : state ≠ .separator) : (items state).next token.kind = some (items .separator) := by
  obtain ⟨kind, text, offset⟩ := token
  cases state with
  | separator => exact absurd rfl awaits
  | opened | value =>
      cases kind with
      | word | quoted => rfl
      | blank | equals | notEquals | openParen | closeParen | pipe | comma | inKeyword | notKeyword
      | endOfInput => cases isValue

theorem faultAfter_readListItems (finish : Stop) (state : ListState) (tokens : List Token) :
    faultAfter finish (readListItems finish state tokens) =
      (items state).fault? finish tokens := by
  fun_induction readListItems finish state tokens with
  | case1 state =>
      cases state with
      | opened | value | separator => rfl
  | case2 state token rest blank inductionHypothesis =>
      have stays : (items state).next token.kind = some (items state) := by
        rw [eq_of_beq blank]
        rfl
      rw [inductionHypothesis, fault?_cons stays]
  | case3 state token rest notBlank closes =>
      rw [Bool.and_eq_true, beq_iff_eq, bne_iff_ne] at closes
      have leaves : (items state).next token.kind = some clauses := by
        rw [closes.1]
        cases state with
        | opened | separator => rfl
        | value => exact absurd rfl closes.2
      rw [fault?_cons leaves]
      rfl
  | case4 state token rest notBlank notClosing isValue inductionHypothesis =>
      rw [Bool.and_eq_true, bne_iff_ne] at isValue
      have goesOn : (items state).next token.kind = some (items .separator) :=
        next_items_of_isValue isValue.1 isValue.2
      rw [faultAfter_translate, inductionHypothesis, fault?_cons goesOn]
  | case5 state token rest notBlank notClosing notValue separates inductionHypothesis =>
      rw [Bool.and_eq_true, beq_iff_eq, beq_iff_eq] at separates
      obtain ⟨isComma, rfl⟩ := separates
      have goesOn : (items .separator).next token.kind = some (items .value) := by
        rw [isComma]
        rfl
      rw [inductionHypothesis, fault?_cons goesOn]
  | case6 state token rest notBlank notClosing notValue notComma =>
      have dead : (items state).next token.kind = none := by
        obtain ⟨kind, text, offset⟩ := token
        cases kind with
        | blank => exact absurd rfl notBlank
        | word | quoted =>
            cases state with
            | opened | value => exact absurd rfl notValue
            | separator => rfl
        | closeParen =>
            cases state with
            | opened | separator => exact absurd rfl notClosing
            | value => rfl
        | comma =>
            cases state with
            | opened | value => rfl
            | separator => exact absurd rfl notComma
        | equals | notEquals | openParen | pipe | inKeyword | notKeyword | endOfInput =>
            cases state with
            | opened | value | separator => rfl
      rw [fault?_cons_of_none dead]
      rfl

theorem faultAfter_readList (finish : Stop) (tokens : List Token) :
    faultAfter finish (readList finish tokens) = list.fault? finish tokens := by
  rw [← fault?_skipBlanks rfl tokens, readList]
  cases skipped : skipBlanks tokens with
  | nil => rfl
  | cons token rest =>
      have notBlank := isBlank_eq_false_of_skipBlanks skipped
      obtain ⟨kind, text, offset⟩ := token
      cases kind with
      | blank => cases notBlank
      | openParen => exact faultAfter_readListItems finish .opened rest
      | word | quoted | equals | notEquals | closeParen | pipe | comma | inKeyword | notKeyword
      | endOfInput => rfl

/-! ## Words that nothing belongs to -/

/-- Behind a `NOT` that no `IN` follows, the clause of the `NOT` goes on. -/
theorem fault?_negation (notIn : ∀ keyword rest, skipBlanks tokens = keyword :: rest →
    keyword.kind ≠ .inKeyword) :
    negation.fault? finish tokens = value.fault? finish tokens := by
  rw [← fault?_skipBlanks rfl tokens,
    ← fault?_skipBlanks rfl tokens]
  cases skipped : skipBlanks tokens with
  | nil => rfl
  | cons token rest =>
      have notBlank := isBlank_eq_false_of_skipBlanks skipped
      have notIn := notIn token rest skipped
      obtain ⟨kind, text, offset⟩ := token
      cases kind with
      | blank => cases notBlank
      | inKeyword => exact absurd rfl notIn
      | word | quoted | equals | notEquals | openParen | closeParen | pipe | comma | notKeyword
      | endOfInput => rfl

theorem fault?_apart (nothing : Follower.list tokens = .other) :
    apart.fault? finish tokens = clauses.fault? finish tokens := by
  rw [← fault?_skipBlanks rfl tokens,
    ← fault?_skipBlanks rfl tokens]
  unfold Follower.list at nothing
  cases skipped : skipBlanks tokens with
  | nil => rfl
  | cons token rest =>
      have notBlank := isBlank_eq_false_of_skipBlanks skipped
      rw [skipped] at nothing
      obtain ⟨kind, text, offset⟩ := token
      cases kind with
      | blank => cases notBlank
      | inKeyword => cases nothing
      | notKeyword =>
          refine fault?_negation ?_
          intro keyword behind skippedAgain isIn
          dsimp only at nothing
          rw [skippedAgain] at nothing
          dsimp only at nothing
          rw [if_pos (beq_iff_eq.mpr isIn)] at nothing
          cases nothing
      | word | quoted | equals | notEquals | openParen | closeParen | pipe | comma
      | endOfInput => rfl

/-- A word that nothing belongs to is a clause, and others may follow. -/
theorem fault?_word (nothing : Follower.ofTokens tokens = .other) :
    word.fault? finish tokens = clauses.fault? finish tokens := by
  cases tokens with
  | nil => rfl
  | cons token rest =>
      unfold Follower.ofTokens at nothing
      dsimp only at nothing
      split at nothing
      · cases nothing
      · cases nothing
      · next notEquals notNotEquals =>
          have goesAlike : word.next token.kind = apart.next token.kind := by
            obtain ⟨kind, text, offset⟩ := token
            cases kind with
            | equals => exact absurd rfl notEquals
            | notEquals => exact absurd rfl notNotEquals
            | word | quoted | blank | openParen | closeParen | pipe | comma | inKeyword
            | notKeyword | endOfInput => rfl
          rw [← fault?_apart nothing, fault?, fault?, goesAlike]

/-! ## Clauses -/

/-- White space behind a word may stand in front of `IN` and `NOT`. -/
theorem fault?_word_append_blanks {blanks : List Token} (blank : AllBlank blanks) {keyword : Token}
    (isKeyword : keyword.kind.isKeyword = true) (rest : List Token) :
    word.fault? finish (blanks ++ keyword :: rest) = apart.fault? finish (keyword :: rest) := by
  cases blanks with
  | nil =>
      obtain ⟨kind, text, offset⟩ := keyword
      cases kind with
      | inKeyword | notKeyword => rfl
      | word | quoted | blank | equals | notEquals | openParen | closeParen | pipe | comma
      | endOfInput => cases isKeyword
  | cons first blanks =>
      obtain ⟨firstBlank, othersBlank⟩ := List.forall_mem_cons.mp blank
      have goesOn : word.next first.kind = some apart := by
        rw [eq_of_beq firstBlank]
        rfl
      rw [List.cons_append, fault?_cons goesOn]
      exact fault?_append_blanks rfl othersBlank _

theorem faultAfter_readWordClause (finish : Stop) (text : String) (tokens : List Token) :
    faultAfter finish (readWordClause finish text tokens) = word.fault? finish tokens := by
  unfold readWordClause
  rcases Follower.begins_ofTokens tokens with nothing | begins
  · rw [nothing]
    exact (fault?_word nothing).symm
  · generalize Follower.ofTokens tokens = follower at begins
    cases begins with
    | equals isSign | notEquals isSign =>
        dsimp only
        rw [faultAfter_translate, faultAfter_readValue, fault?_cons (by rw [isSign]; rfl)]
    | inList blankBefore isIn =>
        dsimp only
        rw [faultAfter_translate, faultAfter_readList,
          fault?_word_append_blanks blankBefore (by rw [isIn]; rfl),
          fault?_cons (by rw [isIn]; rfl)]
    | notInList blankBefore isNot blankBetween isIn =>
        dsimp only
        rw [faultAfter_translate, faultAfter_readList,
          fault?_word_append_blanks blankBefore (by rw [isNot]; rfl),
          fault?_cons (by rw [isNot]; rfl),
          fault?_append_blanks rfl blankBetween, fault?_cons (by rw [isIn]; rfl)]

theorem faultAfter_readClause (finish : Stop) {first : Token} (notBlank : first.isBlank = false)
    (rest : List Token) :
    faultAfter finish (readClause finish first rest) = clauses.fault? finish (first :: rest) := by
  obtain ⟨kind, text, offset⟩ := first
  cases kind with
  | blank => cases notBlank
  | word | quoted => exact faultAfter_readWordClause finish text rest
  | notKeyword =>
      unfold readClause
      dsimp only
      rw [faultAfter_translate, faultAfter_readValue]
      rfl
  | equals | notEquals | openParen | closeParen | pipe | comma | inKeyword | endOfInput => rfl

/-- Reading the clauses of a search fails at the first token that no search goes on with. -/
theorem faultBehind_readClauses (finish : Stop) (tokens : List Token) :
    faultBehind (fun _ => none) (readClauses finish tokens) = clauses.fault? finish tokens := by
  fun_induction readClauses finish tokens with
  | case1 tokens skipped =>
      rw [← fault?_skipBlanks rfl, skipped]
      rfl
  | case2 tokens first rest skipped error read =>
      have failed := faultAfter_readClause finish (isBlank_eq_false_of_skipBlanks skipped) rest
      rw [read] at failed
      rw [← fault?_skipBlanks rfl, skipped]
      exact failed
  | case3 tokens first rest skipped clause left read inductionHypothesis =>
      have behind := faultAfter_readClause finish (isBlank_eq_false_of_skipBlanks skipped) rest
      rw [read] at behind
      rw [← fault?_skipBlanks rfl tokens, skipped, ← behind]
      change _ = clauses.fault? finish left
      rw [← inductionHypothesis]
      cases readClauses finish left with
      | ok others => rfl
      | error error => rfl

end Readers

end Progress

/-! ## Texts -/

section Texts

variable {finish : Stop} {tokens front : List Token} {token : Token}

/-- Tokens are a search if none of them is at fault and the end does not come too early. -/
theorem exists_ofTokens_iff (finish : Stop) :
    (∃ search, Search.ofTokens tokens = .ok search) ↔
      Progress.clauses.fault? finish (beforeEnd tokens) = none := by
  have sound_iff : Progress.clauses.fault? finish (beforeEnd tokens) = none ↔
      Progress.clauses.fault? (.endOfInput (endOffset tokens)) (beforeEnd tokens) = none :=
    ⟨fun sound => Progress.fault?_eq_none_congr sound _,
      fun sound => Progress.fault?_eq_none_congr sound _⟩
  rw [sound_iff, ← Progress.faultBehind_readClauses, Search.ofTokens]
  cases readClauses (.endOfInput (endOffset tokens)) (beforeEnd tokens) with
  | ok clauses => exact iff_of_true ⟨_, rfl⟩ rfl
  | error error =>
      refine iff_of_false ?_ (Option.some_ne_none _)
      rintro ⟨search, made⟩
      cases made

theorem exists_ofTokens_of_fault? (sound : Progress.clauses.fault? finish tokens = none) :
    ∃ search, Search.ofTokens tokens = .ok search := by
  have ordinary : beforeEnd tokens = tokens := List.takeWhile_eq_self_iff.mpr fun _ member =>
    bne_iff_ne.mpr (Progress.kind_ne_endOfInput_of_fault? sound member)
  rw [exists_ofTokens_iff finish, ordinary]
  exact sound

theorem beforeEnd_append (ordinary : ∀ token ∈ front, token.kind ≠ .endOfInput)
    (rest : List Token) : beforeEnd (front ++ rest) = front ++ beforeEnd rest :=
  List.takeWhile_append_of_pos fun token member => bne_iff_ne.mpr (ordinary token member)

/-- No search begins with tokens up to one that none goes on with. -/
theorem ofTokens_ne_ok_of_found (ordinary : ∀ token ∈ front, token.kind ≠ .endOfInput)
    (notEnd : token.kind ≠ .endOfInput)
    (dead : ∀ more, Progress.clauses.fault? finish (front ++ token :: more) = some (.found token))
    (more : List Token) (search : Search) :
    Search.ofTokens (front ++ token :: more) ≠ .ok search := by
  intro made
  have sound := (exists_ofTokens_iff finish).mp ⟨search, made⟩
  have begins : beforeEnd (token :: more) = token :: beforeEnd more :=
    List.takeWhile_cons_of_pos (bne_iff_ne.mpr notEnd)
  rw [beforeEnd_append ordinary, begins, dead] at sound
  cases sound

/-- What follows an end marker completes nothing. -/
theorem ofTokens_ne_ok_of_ended {stop : Stop} (ordinary : ∀ token ∈ front, token.kind ≠ .endOfInput)
    (isMarker : token.kind = .endOfInput)
    (faulty : Progress.clauses.fault? finish front = some stop) (more : List Token)
    (search : Search) : Search.ofTokens (front ++ token :: more) ≠ .ok search := by
  intro made
  have sound := (exists_ofTokens_iff finish).mp ⟨search, made⟩
  have ends : beforeEnd (token :: more) = [] :=
    List.takeWhile_cons_of_neg (by rw [isMarker]; decide)
  rw [beforeEnd_append ordinary, ends, List.append_nil, faulty] at sound
  cases sound

end Texts

theorem fault?_of_read {query : String} {cut : List Token} {error : QueryError}
    (cutEq : tokensFrom 0 query.toList = .ok cut) (fails : Search.read query = .error error) :
    ∃ fault, error = .grammar fault ∧
      Progress.clauses.fault? (.endOfInput (some query.utf8ByteSize)) cut = some fault.stop := by
  rw [Search.read, tokenize_eq_ok_iff.mpr ⟨cut, cutEq, rfl⟩] at fails
  obtain ⟨fault, unread, rfl⟩ := mapError_eq_error_iff.mp fails
  have unread := (bind_eq_error_iff.mp unread).resolve_right (by simp)
  rw [beforeEnd_append_marker cutEq _ rfl, endOffset_append_marker cutEq _ rfl] at unread
  refine ⟨fault, rfl, ?_⟩
  rw [← Progress.faultBehind_readClauses, unread]
  rfl

/-- A text that can be cut into tokens and is no search is rejected at the first token that no
search goes on with.  This is the end marker exactly if the text is the beginning of a search. -/
theorem search_fails_where_none_goes_on {query : String} {tokens : List Token}
    {error : QueryError} (tokenized : tokenize query = .ok tokens)
    (fails : Search.read query = .error error) :
    ∃ fault front token back, error = .grammar fault ∧ tokens = front ++ token :: back ∧
      fault.offset = some token.offset ∧
      (∃ more search, Search.ofTokens (front ++ more) = .ok search) ∧
      (∀ more search, Search.ofTokens (front ++ token :: more) ≠ .ok search) ∧
      (fault.offset = some query.utf8ByteSize ↔
        ∃ more search, Search.ofTokens (beforeEnd tokens ++ more) = .ok search) := by
  obtain ⟨cut, cutEq, rfl⟩ := tokenize_eq_ok_iff.mp tokenized
  obtain ⟨fault, rfl, faulty⟩ := fault?_of_read cutEq fails
  have ordinary (token : Token) (member : token ∈ cut) : token.kind ≠ .endOfInput :=
    kind_ne_endOfInput_of_mem_tokensFrom cutEq member
  rw [beforeEnd_append_marker cutEq _ rfl]
  rcases Progress.split_of_fault? faulty with
    ⟨front, token, back, rfl, stop_eq, ⟨more, sound⟩, dead⟩ | ⟨stop_eq, more, sound⟩
  · rw [List.forall_mem_append, List.forall_mem_cons] at ordinary
    have offset_eq : fault.offset = some token.offset := by
      rw [fault.offset_eq, stop_eq]
      rfl
    have isDead := ofTokens_ne_ok_of_found ordinary.1 ordinary.2.1 dead
    refine ⟨fault, front, token, _, rfl, List.append_assoc _ _ _, offset_eq,
      ⟨more, exists_ofTokens_of_fault? sound⟩, isDead, iff_of_false ?_ ?_⟩
    · -- The token lies in front of the marker.
      have ascending := (partitions_of_tokenize tokenized).ascending
      rw [List.map_append, List.pairwise_append] at ascending
      have before := ascending.2.2 token.offset (List.mem_map.mpr ⟨token, by simp, rfl⟩)
        query.utf8ByteSize (by simp)
      rw [offset_eq]
      exact fun atEnd => Nat.ne_of_lt before (Option.some.inj atEnd)
    · rintro ⟨further, search, made⟩
      rw [List.append_assoc, List.cons_append] at made
      exact isDead _ search made
  · have offset_eq : fault.offset = some query.utf8ByteSize := by
      rw [fault.offset_eq, stop_eq]
      rfl
    have completes := exists_ofTokens_of_fault? sound
    exact ⟨fault, cut, _, [], rfl, rfl, offset_eq, ⟨more, completes⟩,
      ofTokens_ne_ok_of_ended ordinary rfl faulty, iff_of_true offset_eq ⟨more, completes⟩⟩

/-- A list without a comma between its values, which a search may begin with up to the second. -/
theorem search_fails_at_value_without_comma :
    ∃ tokens error, tokenize "a NOT IN (b c)" = .ok tokens ∧
      Search.read "a NOT IN (b c)" = .error error ∧
      ∃ fault front token back, error = .grammar fault ∧ tokens = front ++ token :: back ∧
        fault.offset = some token.offset ∧
        (∃ more search, Search.ofTokens (front ++ more) = .ok search) ∧
        (∀ more search, Search.ofTokens (front ++ token :: more) ≠ .ok search) ∧
        (fault.offset = some 14 ↔
          ∃ more search, Search.ofTokens (beforeEnd tokens ++ more) = .ok search) := by
  have tokenized : tokenize "a NOT IN (b c)" = .ok
      [⟨.word, "a", 0⟩, ⟨.blank, " ", 1⟩, ⟨.notKeyword, "NOT", 2⟩, ⟨.blank, " ", 5⟩,
        ⟨.inKeyword, "IN", 6⟩, ⟨.blank, " ", 8⟩, ⟨.openParen, "(", 9⟩, ⟨.word, "b", 10⟩,
        ⟨.blank, " ", 11⟩, ⟨.word, "c", 12⟩, ⟨.closeParen, ")", 13⟩, ⟨.endOfInput, "", 14⟩] := by
    with_unfolding_all rfl
  have fails : Search.read "a NOT IN (b c)" =
      .error (.grammar (.expected .listSeparator (.found ⟨.word, "c", 12⟩))) := by
    with_unfolding_all rfl
  exact ⟨_, _, tokenized, fails, search_fails_where_none_goes_on tokenized fails⟩

end LogQuery.Query
