import LogQuery.Text.Blank

/-!
# Tokens of a query

A query is cut into tokens without loss: every character belongs to one token, white space
included.  `Token.written` gives a token's characters back, so the written forms of the tokens of a
query make up the query.
-/

namespace LogQuery.Query

/-- The kinds of tokens. -/
inductive TokenKind where
  | word
  | quoted
  | blank
  | equals
  | notEquals
  | openParen
  | closeParen
  | pipe
  | comma
  | inKeyword
  | notKeyword
  /-- Where the query ends; it has no text. -/
  | endOfInput
  deriving Repr, DecidableEq

namespace TokenKind

/-- Words and quoted texts can serve as values. -/
def isValue : TokenKind → Bool
  | .word | .quoted => true
  | _ => false

/-- The keywords read as words where no value is called for. -/
def isKeyword : TokenKind → Bool
  | .inKeyword | .notKeyword => true
  | _ => false

end TokenKind

/-- A token with its text and the byte at which it starts.  A quoted text is kept without its quotes
and escapes; every other text is kept as written. -/
structure Token where
  kind : TokenKind
  text : String
  offset : Nat
  deriving Repr, DecidableEq

/-- A text in double quotes, with a backslash before each double quote inside it. -/
def quote (text : List Char) : List Char :=
  '"' :: text.flatMap (fun c => if c == '"' then ['\\', '"'] else [c]) ++ ['"']

/-- How many bytes characters take in UTF-8. -/
def byteLength (text : List Char) : Nat :=
  text.foldr (fun c length => c.utf8Size + length) 0

namespace Token

/-- The characters of the query that a token stands for. -/
def written (token : Token) : List Char :=
  match token.kind with
  | .quoted => quote token.text.toList
  | _ => token.text.toList

/-- Whether the token is a word or a quoted text. -/
def isValue (token : Token) : Bool :=
  token.kind.isValue

/-- Whether the token is white space. -/
def isBlank (token : Token) : Bool :=
  token.kind == .blank

/-- The same token further on. -/
def shift (distance : Nat) (token : Token) : Token :=
  { token with offset := token.offset + distance }

end Token

/-- The tokens from the first that is not white space on. -/
def skipBlanks (tokens : List Token) : List Token :=
  tokens.dropWhile Token.isBlank

theorem length_skipBlanks_le (tokens : List Token) :
    (skipBlanks tokens).length ≤ tokens.length :=
  (List.dropWhile_sublist _).length_le

/-- The tokens without white space at either end. -/
def trimBlanks (tokens : List Token) : List Token :=
  (skipBlanks (skipBlanks tokens).reverse).reverse

/-- The tokens before the end of the query. -/
def beforeEnd (tokens : List Token) : List Token :=
  tokens.takeWhile (·.kind != .endOfInput)

/-- Where reading stops for want of tokens: at the end marker, or at the last token if there is no
marker. -/
def endOffset (tokens : List Token) : Option Nat :=
  match tokens.dropWhile (·.kind != .endOfInput) with
  | marker :: _ => some marker.offset
  | [] => tokens.getLast?.map (·.offset)

end LogQuery.Query
