/-!
# Written patterns

The tree of a regular expression as it is written: flags, escapes and classes still stand in it, and
nothing is resolved.
-/

namespace LogQuery.Regex

/-- Why a text is no regular expression. -/
inductive PatternError where
  | groupUnclosed
  | groupUnopened
  | groupName (name : String)
  | groupNameTwice (name : String)
  | lookAround
  | repetitionMissing
  | repetitionCount
  | backreference
  | escapeUnfinished
  | escapeUnknown (c : Char)
  | hexadecimal
  | property (name : String)
  | flags
  | classUnclosed
  | classEscape
  | classRange
  | boundaryName (name : String)
  | nestedTooDeeply
  /-- A byte-oriented part could match text that is not UTF-8. -/
  | bytesOutsideAscii
  | tooLarge
  deriving Repr, DecidableEq

/-- The letters that switch a behaviour on or off. -/
inductive Flag where
  /-- `i`: case does not matter. -/
  | caseInsensitive
  /-- `m`: `^` and `$` match at lines. -/
  | multiLine
  /-- `s`: `.` matches a line feed too. -/
  | dotMatchesNewLine
  /-- `U`: repetitions are lazy, and `?` makes them greedy. -/
  | swapGreed
  /-- `u`: classes and case follow all scripts. -/
  | allScripts
  /-- `R`: lines end as in `\r\n`. -/
  | crlf
  /-- `x`: white space and comments are skipped. -/
  | ignoreSpace
  deriving Repr, DecidableEq

/-- Flags to set (`true`) or to clear, in the order in which they are written. -/
abbrev FlagChanges := List (Flag × Bool)

/-- The classes that an escaped letter names. -/
inductive PerlClass where
  | digit
  | space
  | word
  deriving Repr, DecidableEq

/-- The classes of the form `[:name:]`. -/
inductive PosixClass where
  | alnum | alpha | ascii | blank | cntrl | digit | graph | lower | print | punct | space | upper
  | word | xdigit
  deriving Repr, DecidableEq

/-- What `\p` may ask about a character. -/
inductive Property where
  | decimalNumber
  | whiteSpace
  deriving Repr, DecidableEq

/-- How two sets combine inside a bracketed class. -/
inductive SetOperator where
  /-- `&&` -/
  | inter
  /-- `--` -/
  | diff
  /-- `~~` -/
  | symmDiff
  deriving Repr, DecidableEq

/-- What stands between the brackets of a class. -/
inductive ClassItem where
  | empty
  | literal (c : Char)
  | range (low high : Char)
  | posix (kind : PosixClass) (negated : Bool)
  | perl (kind : PerlClass) (negated : Bool)
  | property (kind : Property) (negated : Bool)
  | union (left right : ClassItem)
  | bracketed (negated : Bool) (body : ClassItem)
  | operation (operator : SetOperator) (left right : ClassItem)
  deriving Repr, DecidableEq

/-- Positions that consume nothing, as written. -/
inductive Assertion where
  /-- `^` -/
  | caret
  /-- `$` -/
  | dollar
  /-- `\A` -/
  | textStart
  /-- `\z` -/
  | textEnd
  /-- `\b` -/
  | boundary
  /-- `\B` -/
  | notBoundary
  /-- `\<` and `\b{start}` -/
  | wordStart
  /-- `\>` and `\b{end}` -/
  | wordEnd
  /-- `\b{start-half}` -/
  | wordStartHalf
  /-- `\b{end-half}` -/
  | wordEndHalf
  deriving Repr, DecidableEq

/-- A group's way of capturing. -/
inductive GroupKind where
  | numbered (index : Nat)
  | named (index : Nat) (name : String)
  | plain (changes : FlagChanges)
  deriving Repr, DecidableEq

/-- A regular expression as written. -/
inductive Pattern where
  | empty
  | flags (changes : FlagChanges)
  /-- A character; `fromByte` when it is written with two hexadecimal digits. -/
  | literal (c : Char) (fromByte : Bool)
  | dot
  | assertion (kind : Assertion)
  | perl (kind : PerlClass) (negated : Bool)
  | property (kind : Property) (negated : Bool)
  | bracketed (negated : Bool) (body : ClassItem)
  | repetition (min : Nat) (max : Option Nat) (greedy : Bool) (body : Pattern)
  | group (kind : GroupKind) (body : Pattern)
  | alternation (left right : Pattern)
  | concat (first second : Pattern)
  deriving Repr, DecidableEq

end LogQuery.Regex
