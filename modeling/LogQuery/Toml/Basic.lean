/-!
# TOML values

A document is a table.  Dates and times are kept as their text.  The language has two editions, and
a document is read by the rules of one of them.
-/

namespace LogQuery

/-- TOML values. -/
inductive Toml where
  | string (value : String)
  | integer (value : Int)
  | float (value : Float)
  | boolean (value : Bool)
  | datetime (text : String)
  | array (items : List Toml)
  | table (entries : List (String × Toml))

namespace Toml

/-- What the documents of an edition of the language may hold. -/
structure Edition where
  /-- How deep arrays and inline tables may nest, and how many parts a key may have. -/
  nestLimit : Nat
  /-- Whether `\e` and `\x` with two digits are escapes. -/
  byteEscapes : Bool
  /-- Whether an inline table may take several lines and end in a comma. -/
  openInlineTables : Bool
  /-- Whether a time may leave out its seconds. -/
  shortTimes : Bool
  /-- Whether a carriage return before a line feed stays in a string of several lines. -/
  keepsReturns : Bool
  /-- Whether a negative number below all doubles stands for negative infinity. -/
  negativeOverflow : Bool
  /-- Whether a dotted key may add to a table that a longer header implied. -/
  keysExtendImplied : Bool
  deriving Repr, DecidableEq

/-- Edition 1.0. -/
def Edition.v10 : Edition where
  nestLimit := 79
  byteEscapes := false
  openInlineTables := false
  shortTimes := false
  keepsReturns := false
  negativeOverflow := true
  keysExtendImplied := false

/-- Edition 1.1, which relaxes strings, inline tables and times. -/
def Edition.v11 : Edition where
  nestLimit := 80
  byteEscapes := true
  openInlineTables := true
  shortTimes := true
  keepsReturns := true
  negativeOverflow := false
  keysExtendImplied := true

/-- What may go wrong with a document.  A key may be given once; a table that is closed or is no
table cannot be added to. -/
inductive DocumentError where
  | malformed
  | duplicateKey (key : String)
  | noTable (key : String)
  | nestedTooDeeply
  deriving Repr, DecidableEq

end Toml

end LogQuery
