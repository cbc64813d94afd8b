import LogQuery.Query.Token

/-!
# What can be wrong with a query

Each cause is kept with the token at which it shows, and `GrammarError.message` words it.
-/

namespace LogQuery.Query

/-- What a reader looks at where it cannot go on. -/
inductive Stop where
  | found (token : Token)
  /-- The end of the query, at a byte that is known unless there are no tokens at all. -/
  | endOfInput (offset : Option Nat)
  deriving Repr, DecidableEq

namespace Stop

/-- The byte at which reading stops. -/
def offset : Stop → Option Nat
  | .found token => some token.offset
  | .endOfInput offset => offset

/-- How messages speak of the place. -/
def describe : Stop → String
  | .found token => "'" ++ token.text ++ "'"
  | .endOfInput _ => "end of input"

/-- The first of the remaining tokens, or the given end. -/
def ofTokens (tokens : List Token) (finish : Stop) : Stop :=
  match tokens with
  | token :: _ => .found token
  | [] => finish

end Stop

/-- What a reader calls for. -/
inductive Wanted where
  | valueAfterNot
  | valueAfterEquals (field : String)
  | valueAfterNotEquals (field : String)
  | listOpening
  | listValue
  | listSeparator
  | stageName
  | optionValue (key : String)
  deriving Repr, DecidableEq

namespace Wanted

/-- How messages name what is called for. -/
def describe : Wanted → Stop → String
  | .valueAfterNot, _ => "value after NOT"
  | .valueAfterEquals field, _ => "value after '" ++ field ++ "='"
  | .valueAfterNotEquals field, _ => "value after '" ++ field ++ "!='"
  | .listOpening, _ => "'(' after IN"
  | .listValue, _ => "value in IN list"
  | .listSeparator, .found _ => "',' or ')' in IN list"
  | .listSeparator, .endOfInput _ => "')' to close IN list"
  | .stageName, _ => "step name after '|'"
  | .optionValue key, _ => "value for option '" ++ key ++ "'"

end Wanted

/-- Why tokens form no query. -/
inductive GrammarError where
  /-- A token that begins no search clause. -/
  | unexpected (found : Token)
  | expected (wanted : Wanted) (found : Stop)
  /-- A stage with neither a value nor an option. -/
  | emptyStage (name : Token)
  deriving Repr, DecidableEq

namespace GrammarError

/-- The byte of the query that the error points at. -/
def offset : GrammarError → Option Nat
  | .unexpected found => some found.offset
  | .expected _ found => found.offset
  | .emptyStage name => some name.offset

/-- The wording of the error. -/
def message : GrammarError → String
  | .unexpected found => "unexpected '" ++ found.text ++ "' in search"
  | .expected wanted found =>
      "expected " ++ wanted.describe found ++ ", found " ++ found.describe
  | .emptyStage name => "step '" ++ name.text ++ "' requires a value or an option"

end GrammarError

/-- Why a text is no query. -/
inductive QueryError where
  /-- A double quote at this byte that is never closed. -/
  | unterminatedQuote (offset : Nat)
  | grammar (error : GrammarError)
  deriving Repr, DecidableEq

namespace QueryError

/-- The wording of the error. -/
def message : QueryError → String
  | .unterminatedQuote offset => "Unterminated quote starting at offset " ++ toString offset
  | .grammar error => "Syntax error: " ++ error.message

end QueryError

end LogQuery.Query
