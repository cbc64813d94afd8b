import LogQuery.Query.Search
import LogQuery.Query.Token.Lexer
import LogQuery.Outcome

/-!
# Reading a search

A search is a sequence of clauses with white space between them.  A comparison sign has to follow
its field directly, `IN` and `NOT IN` may stand apart from it, and a `NOT` that no `IN` follows
begins a clause of its own.
-/

namespace LogQuery.Query

/-- A value at the front. -/
def readValue (wanted : Wanted) (finish : Stop) (tokens : List Token) :
    Except GrammarError (String × List Token) :=
  match tokens with
  | token :: rest =>
      if token.isValue then .ok (token.text, rest) else .error (.expected wanted (.found token))
  | [] => .error (.expected wanted finish)

/-- What may come next inside a list. -/
inductive ListState where
  /-- A value or the closing parenthesis. -/
  | opened
  /-- A value. -/
  | value
  /-- A comma or the closing parenthesis. -/
  | separator
  deriving Repr, DecidableEq

/-- What a list calls for where it is broken off. -/
def ListState.wanted : ListState → Wanted
  | .opened | .value => .listValue
  | .separator => .listSeparator

/-- The values up to a closing parenthesis, and what follows it. -/
def readListItems (finish : Stop) :
    ListState → List Token → Except GrammarError (List String × List Token)
  | state, [] => .error (.expected state.wanted finish)
  | state, token :: rest =>
      if token.isBlank then readListItems finish state rest
      else if token.kind == .closeParen && state != .value then .ok ([], rest)
      else if token.isValue && state != .separator then do
        let (values, left) ← readListItems finish .separator rest
        .ok (token.text :: values, left)
      else if token.kind == .comma && state == .separator then readListItems finish .value rest
      else .error (.expected state.wanted (.found token))

/-- A list in parentheses. -/
def readList (finish : Stop) (tokens : List Token) :
    Except GrammarError (List String × List Token) :=
  match skipBlanks tokens with
  | token :: rest =>
      if token.kind == .openParen then readListItems finish .opened rest
      else .error (.expected .listOpening (.found token))
  | [] => .error (.expected .listOpening finish)

/-- What follows a word or quoted text at the start of a clause. -/
inductive Follower where
  | equals (rest : List Token)
  | notEquals (rest : List Token)
  | inList (rest : List Token)
  | notInList (rest : List Token)
  /-- Nothing that belongs to the word. -/
  | other

/-- Decide which list follows a word, if any, when no comparison sign does. -/
def Follower.list (tokens : List Token) : Follower :=
  match skipBlanks tokens with
  | token :: rest =>
      match token.kind with
      | .inKeyword => .inList rest
      | .notKeyword =>
          match skipBlanks rest with
          | second :: left => if second.kind == .inKeyword then .notInList left else .other
          | [] => .other
      | _ => .other
  | [] => .other

/-- Decide what follows a word. -/
def Follower.ofTokens (tokens : List Token) : Follower :=
  match tokens with
  | token :: rest =>
      match token.kind with
      | .equals => .equals rest
      | .notEquals => .notEquals rest
      | _ => Follower.list tokens
  | [] => .other

/-- The clause that begins with a word or quoted text. -/
def readWordClause (finish : Stop) (word : String) (tokens : List Token) :
    Except GrammarError (Clause × List Token) :=
  match Follower.ofTokens tokens with
  | .equals rest => do
      let (value, left) ← readValue (.valueAfterEquals word) finish (skipBlanks rest)
      .ok (.equals word value, left)
  | .notEquals rest => do
      let (value, left) ← readValue (.valueAfterNotEquals word) finish (skipBlanks rest)
      .ok (.notEquals word value, left)
  | .inList rest => do
      let (values, left) ← readList finish rest
      .ok (.oneOf word values, left)
  | .notInList rest => do
      let (values, left) ← readList finish rest
      .ok (.noneOf word values, left)
  | .other => .ok (.fragment word, tokens)

/-- The clause that begins with a token. -/
def readClause (finish : Stop) (first : Token) (rest : List Token) :
    Except GrammarError (Clause × List Token) :=
  match first.kind with
  | .word | .quoted => readWordClause finish first.text rest
  | .notKeyword => do
      let (value, left) ← readValue .valueAfterNot finish (skipBlanks rest)
      .ok (.notFragment value, left)
  | _ => .error (.unexpected first)

/-! ## Every clause consumes tokens -/

theorem length_readValue_le {wanted : Wanted} {finish : Stop} {tokens left : List Token}
    {value : String} (h : readValue wanted finish tokens = .ok (value, left)) :
    left.length ≤ tokens.length := by
  unfold readValue at h
  split at h
  · split at h
    · simp_all
    · cases h
  · cases h

theorem length_readListItems_le {finish : Stop} {state : ListState} {tokens left : List Token}
    {values : List String} (h : readListItems finish state tokens = .ok (values, left)) :
    left.length ≤ tokens.length := by
  fun_induction readListItems finish state tokens generalizing values left with
  | case1 => cases h
  | case2 state token rest blank inductionHypothesis =>
      exact Nat.le_succ_of_le (inductionHypothesis h)
  | case3 => simp_all
  | case4 state token rest _ _ _ inductionHypothesis =>
      obtain ⟨⟨others, left'⟩, read, done⟩ := bind_eq_ok.mp h
      simp only [Except.ok.injEq, Prod.mk.injEq] at done
      obtain ⟨-, rfl⟩ := done
      exact Nat.le_succ_of_le (inductionHypothesis read)
  | case5 state token rest _ _ _ _ inductionHypothesis =>
      exact Nat.le_succ_of_le (inductionHypothesis h)
  | case6 => cases h

theorem length_readList_le {finish : Stop} {tokens left : List Token} {values : List String}
    (h : readList finish tokens = .ok (values, left)) : left.length ≤ tokens.length := by
  unfold readList at h
  have shorter := length_skipBlanks_le tokens
  split at h
  · next token rest skipped =>
      split at h
      · have := length_readListItems_le h
        rw [skipped, List.length_cons] at shorter
        omega
      · cases h
  · cases h

/-- The tokens after what follows a word. -/
def Follower.rest? : Follower → Option (List Token)
  | .equals rest | .notEquals rest | .inList rest | .notInList rest => some rest
  | .other => none

theorem Follower.length_list_rest_le {tokens rest : List Token}
    (h : (Follower.list tokens).rest? = some rest) : rest.length ≤ tokens.length := by
  have shorter := length_skipBlanks_le tokens
  unfold Follower.list at h
  split at h
  · next token after skipped =>
      rw [skipped, List.length_cons] at shorter
      split at h
      · simp only [Follower.rest?, Option.some.injEq] at h
        subst h
        omega
      · have shorter' := length_skipBlanks_le after
        split at h
        · next second left skipped' =>
            rw [skipped', List.length_cons] at shorter'
            split at h
            · simp only [Follower.rest?, Option.some.injEq] at h
              subst h
              omega
            · simp [Follower.rest?] at h
        · simp [Follower.rest?] at h
      · simp [Follower.rest?] at h
  · simp [Follower.rest?] at h

theorem Follower.length_rest_le {tokens rest : List Token}
    (h : (Follower.ofTokens tokens).rest? = some rest) : rest.length ≤ tokens.length := by
  unfold Follower.ofTokens at h
  split at h
  · split at h
    · simp_all [Follower.rest?]
    · simp_all [Follower.rest?]
    · exact Follower.length_list_rest_le h
  · simp [Follower.rest?] at h

theorem length_readWordClause_le {finish : Stop} {word : String} {tokens left : List Token}
    {clause : Clause} (h : readWordClause finish word tokens = .ok (clause, left)) :
    left.length ≤ tokens.length := by
  unfold readWordClause at h
  have bound {rest : List Token} (follows : (Follower.ofTokens tokens).rest? = some rest) :
      (skipBlanks rest).length ≤ tokens.length ∧ rest.length ≤ tokens.length :=
    have rest_le := Follower.length_rest_le follows
    ⟨Nat.le_trans (length_skipBlanks_le rest) rest_le, rest_le⟩
  split at h
  case h_1 rest follower | h_2 rest follower =>
    obtain ⟨⟨value, left'⟩, read, done⟩ := bind_eq_ok.mp h
    simp only [Except.ok.injEq, Prod.mk.injEq] at done
    obtain ⟨-, rfl⟩ := done
    exact Nat.le_trans (length_readValue_le read)
      (bound (by simp only [follower, Follower.rest?])).1
  case h_3 rest follower | h_4 rest follower =>
    obtain ⟨⟨values, left'⟩, read, done⟩ := bind_eq_ok.mp h
    simp only [Except.ok.injEq, Prod.mk.injEq] at done
    obtain ⟨-, rfl⟩ := done
    exact Nat.le_trans (length_readList_le read)
      (bound (by simp only [follower, Follower.rest?])).2
  case h_5 => simp_all

theorem length_readClause_le {finish : Stop} {first : Token} {rest left : List Token}
    {clause : Clause} (h : readClause finish first rest = .ok (clause, left)) :
    left.length ≤ rest.length := by
  unfold readClause at h
  split at h
  · exact length_readWordClause_le h
  · exact length_readWordClause_le h
  · obtain ⟨⟨value, left'⟩, read, done⟩ := bind_eq_ok.mp h
    have value_le := length_readValue_le read
    have skipped_le := length_skipBlanks_le rest
    simp only [Except.ok.injEq, Prod.mk.injEq] at done
    obtain ⟨-, rfl⟩ := done
    omega
  · cases h

/-- The clauses of a search. -/
def readClauses (finish : Stop) (tokens : List Token) : Except GrammarError (List Clause) :=
  match _skipped : skipBlanks tokens with
  | [] => .ok []
  | first :: rest =>
      match _read : readClause finish first rest with
      | .error error => .error error
      | .ok (clause, left) => do
          let clauses ← readClauses finish left
          .ok (clause :: clauses)
termination_by tokens.length
decreasing_by
  have := length_readClause_le _read
  have := length_skipBlanks_le tokens
  rw [_skipped, List.length_cons] at this
  omega

namespace Search

/-- The search that tokens spell; what follows an end marker is not looked at. -/
def ofTokens (tokens : List Token) : Except GrammarError Search := do
  let clauses ← readClauses (.endOfInput (endOffset tokens)) (beforeEnd tokens)
  .ok (ofClauses clauses)

/-- Read a search. -/
def read (text : String) : Except QueryError Search := do
  let tokens ← tokenize text
  (ofTokens tokens).mapError .grammar

end Search

end LogQuery.Query
