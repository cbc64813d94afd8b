import LogQuery.Query.Error

/-!
# Cutting a query into tokens

Symbols are tokens of their own, and so is every white-space character.  A double quote where a
token begins opens a quoted text; inside it a backslash escapes a double quote and stands for itself
elsewhere.  Everything else is a word, which runs up to the next symbol or white space; a word may
hold double quotes.
-/

namespace LogQuery.Query

open LogQuery.Text

/-- Whether a word ends before this rest of the query. -/
def endsWord : List Char → Bool
  | [] => true
  | '!' :: '=' :: _ => true
  | c :: _ => c == '=' || c == '(' || c == ')' || c == ',' || c == '|' || Text.isBlank c

/-- The characters of a word, and what follows it. -/
def takeWord : List Char → List Char × List Char
  | [] => ([], [])
  | c :: rest =>
      if endsWord (c :: rest) then ([], c :: rest)
      else
        let (word, left) := takeWord rest
        (c :: word, left)

/-- The text inside quotes and what follows the closing quote, given what follows the opening
one. -/
def takeQuoted : List Char → Option (List Char × List Char)
  | [] => none
  | '\\' :: '"' :: rest => (takeQuoted rest).map fun (text, left) => ('"' :: text, left)
  | '"' :: rest => some ([], rest)
  | c :: rest => (takeQuoted rest).map fun (text, left) => (c :: text, left)

/-- Words that are keywords, in any case. -/
def classifyWord (word : List Char) : TokenKind :=
  let lowered := word.map Char.toLower
  if lowered == ['i', 'n'] then .inKeyword
  else if lowered == ['n', 'o', 't'] then .notKeyword
  else .word

/-- The kind and text of the first token of a query, and what follows it; `none` for a quote that is
never closed. -/
def readToken : Char → List Char → Option (TokenKind × List Char × List Char)
  | '=', rest => some (.equals, ['='], rest)
  | '!', '=' :: rest => some (.notEquals, ['!', '='], rest)
  | '(', rest => some (.openParen, ['('], rest)
  | ')', rest => some (.closeParen, [')'], rest)
  | ',', rest => some (.comma, [','], rest)
  | '|', rest => some (.pipe, ['|'], rest)
  | '"', rest => (takeQuoted rest).map fun (text, left) => (.quoted, text, left)
  | c, rest =>
      if Text.isBlank c then some (.blank, [c], rest)
      else
        let (word, left) := takeWord rest
        some (classifyWord (c :: word), c :: word, left)

theorem length_takeWord_le (text : List Char) : (takeWord text).2.length ≤ text.length := by
  induction text with
  | nil => simp [takeWord]
  | cons c rest inductionHypothesis =>
      simp only [takeWord]
      split
      · simp
      · simp only [List.length_cons]
        omega

theorem length_takeQuoted_lt {text inside left : List Char}
    (h : takeQuoted text = some (inside, left)) : left.length < text.length := by
  fun_induction takeQuoted text generalizing inside left with
  | case1 => simp at h
  | case2 rest inductionHypothesis =>
      simp only [Option.map_eq_some_iff, Prod.exists, Prod.mk.injEq] at h
      obtain ⟨text, rest', read, -, rfl⟩ := h
      have := inductionHypothesis read
      simp only [List.length_cons]
      omega
  | case3 rest => simp_all
  | case4 c rest _ _ inductionHypothesis =>
      simp only [Option.map_eq_some_iff, Prod.exists, Prod.mk.injEq] at h
      obtain ⟨text, rest', read, -, rfl⟩ := h
      have := inductionHypothesis read
      simp only [List.length_cons]
      omega

/-- Reading a token leaves no more than what follows its first character. -/
theorem length_readToken_le {c : Char} {rest left text : List Char} {kind : TokenKind}
    (h : readToken c rest = some (kind, text, left)) : left.length ≤ rest.length := by
  unfold readToken at h
  split at h
  case h_7 =>
      simp only [Option.map_eq_some_iff, Prod.exists, Prod.mk.injEq] at h
      obtain ⟨inside, rest', read, -, -, rfl⟩ := h
      exact Nat.le_of_lt (length_takeQuoted_lt read)
  case h_8 =>
      split at h
      · simp_all
      · have := length_takeWord_le rest
        simp_all
  all_goals simp_all

/-- The tokens of the rest of a query that starts at the given byte. -/
def tokensFrom (offset : Nat) : List Char → Except QueryError (List Token)
  | [] => .ok []
  | c :: rest =>
      match _h : readToken c rest with
      | none => .error (.unterminatedQuote offset)
      | some (kind, text, left) => do
          let token : Token := ⟨kind, String.ofList text, offset⟩
          let tokens ← tokensFrom (offset + byteLength token.written) left
          .ok (token :: tokens)
termination_by text => text.length
decreasing_by
  simp only [List.length_cons]
  exact Nat.lt_succ_of_le (length_readToken_le _h)

/-- The tokens of a query, with the end marker last. -/
def tokenize (query : String) : Except QueryError (List Token) := do
  let tokens ← tokensFrom 0 query.toList
  .ok (tokens ++ [⟨.endOfInput, "", query.utf8ByteSize⟩])

end LogQuery.Query
