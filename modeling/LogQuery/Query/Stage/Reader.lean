import LogQuery.Query.Search.Reader
import LogQuery.Query.Stage

/-!
# Reading a pipeline

Pipes cut the tokens of a query into segments, which are read one by one and independently of each
other.  What stands before the first pipe is the value of a search stage; a query that begins with a
pipe has no such stage.  Every other segment is a name, perhaps one option, and a positional value.

A positional value of one word or quoted text is that text; any other is kept as it is written, so
that a step can cut it into the same tokens again.
-/

namespace LogQuery.Query

/-- The tokens between two pipes, and the pipe or the end that closes them. -/
structure Segment where
  tokens : List Token
  finish : Stop
  deriving Repr, DecidableEq

namespace Segment

/-- Cut tokens at the pipes. -/
def split (finish : Stop) : List Token → List Segment
  | [] => [⟨[], finish⟩]
  | token :: rest =>
      if token.kind == .pipe then ⟨[], .found token⟩ :: split finish rest
      else
        match split finish rest with
        | [] => [⟨[token], finish⟩]
        | segment :: segments => { segment with tokens := token :: segment.tokens } :: segments

end Segment

/-- The part of the query that tokens stand for. -/
def writtenText (tokens : List Token) : String :=
  String.ofList (tokens.flatMap Token.written)

/-- The positional value that tokens make. -/
def positionalValue (tokens : List Token) : String :=
  match trimBlanks tokens with
  | [] => ""
  | [token] => if token.isValue then token.text else writtenText [token]
  | trimmed => writtenText trimmed

/-- The option that the tokens begin with, if they begin with one: a word, an equals sign and a
value, with white space in between. -/
def readOption (finish : Stop) (tokens : List Token) :
    Except GrammarError (Fields × List Token) :=
  match tokens with
  | key :: rest =>
      match skipBlanks rest with
      | sign :: after =>
          if key.kind == .word && sign.kind == .equals then do
            let (value, left) ← readValue (.optionValue key.text) finish (skipBlanks after)
            .ok ((∅ : Fields).insert key.text value, left)
          else .ok (∅, tokens)
      | [] => .ok (∅, tokens)
  | [] => .ok (∅, tokens)

namespace Stage

/-- The stage that a segment after a pipe spells. -/
def ofSegment (segment : Segment) : Except GrammarError Stage :=
  match skipBlanks segment.tokens with
  | [] => .error (.expected .stageName segment.finish)
  | name :: rest =>
      if name.kind == .word then do
        let (options, left) ← readOption segment.finish (skipBlanks rest)
        if options.isEmpty && left.all Token.isBlank then .error (.emptyStage name)
        else .ok { name := name.text, options, value := positionalValue left }
      else .error (.expected .stageName (.found name))

/-- The search stage that stands before the first pipe: it is left out when there is nothing but
white space before a pipe. -/
def leading (first : Segment) (others : List Segment) : List Stage :=
  if first.tokens.all Token.isBlank && !others.isEmpty then []
  else [search (writtenText first.tokens)]

/-- The stages that segments spell. -/
def ofSegments : List Segment → Except GrammarError (List Stage)
  | [] => .ok []
  | first :: others => do
      let stages ← others.mapM ofSegment
      .ok (leading first others ++ stages)

end Stage

/-- Read the stages of a pipeline. -/
def readPipeline (query : String) : Except QueryError (List Stage) := do
  let tokens ← tokenize query
  let segments := Segment.split (.endOfInput (endOffset tokens)) (beforeEnd tokens)
  (Stage.ofSegments segments).mapError .grammar

end LogQuery.Query
