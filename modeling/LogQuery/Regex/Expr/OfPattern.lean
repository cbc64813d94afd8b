import LogQuery.Regex.Expr
import LogQuery.Regex.Pattern

/-!
# The meaning of a written pattern

Flags hold from where they stand to the end of their group.  Case folding closes a class before its
negation is taken.  With the flag `u` cleared, classes and letter case are ASCII, and whatever could
match a byte outside ASCII is refused, since texts are sequences of characters.
-/

namespace LogQuery.Regex

open LogQuery.Text

/-- The flags in force at a position. -/
structure Flags where
  caseInsensitive : Bool := false
  multiLine : Bool := false
  dotMatchesNewLine : Bool := false
  swapGreed : Bool := false
  allScripts : Bool := true
  crlf : Bool := false
  deriving Repr, DecidableEq

namespace Flags

/-- Set or clear one flag; skipping white space is a matter of reading. -/
def set (flags : Flags) (flag : Flag) (value : Bool) : Flags :=
  match flag with
  | .caseInsensitive => { flags with caseInsensitive := value }
  | .multiLine => { flags with multiLine := value }
  | .dotMatchesNewLine => { flags with dotMatchesNewLine := value }
  | .swapGreed => { flags with swapGreed := value }
  | .allScripts => { flags with allScripts := value }
  | .crlf => { flags with crlf := value }
  | .ignoreSpace => flags

/-- Apply changes from left to right. -/
def apply (flags : Flags) (changes : FlagChanges) : Flags :=
  changes.foldl (fun flags change => flags.set change.1 change.2) flags

/-- Close a set under case, when case does not matter. -/
def fold (flags : Flags) (set : CharSet) : CharSet :=
  if flags.caseInsensitive then
    if flags.allScripts then .caseClosure set else .asciiCaseClosure set
  else set

/-- The complement of a set, which needs all scripts. -/
def negate (flags : Flags) (negated : Bool) (set : CharSet) : Except PatternError CharSet :=
  if !negated then .ok set
  else if flags.allScripts then .ok (.complement set)
  else .error .bytesOutsideAscii

end Flags

/-- The characters of a class `[:name:]`, all of them ASCII. -/
def PosixClass.charSet : PosixClass → CharSet
  | .alnum => .ofList [.range '0' '9', .range 'A' 'Z', .range 'a' 'z']
  | .alpha => .ofList [.range 'A' 'Z', .range 'a' 'z']
  | .ascii => .range '\x00' '\x7f'
  | .blank => .ofList [.single '\t', .single ' ']
  | .cntrl => .ofList [.range '\x00' '\x1f', .single '\x7f']
  | .digit => .range '0' '9'
  | .graph => .range '!' '~'
  | .lower => .range 'a' 'z'
  | .print => .range ' ' '~'
  | .punct => .ofList [.range '!' '/', .range ':' '@', .range '[' '\x60', .range '\x7b' '~']
  | .space => .ofList [.range '\t' '\r', .single ' ']
  | .upper => .range 'A' 'Z'
  | .word => .ofList [.range '0' '9', .range 'A' 'Z', .single '_', .range 'a' 'z']
  | .xdigit => .ofList [.range '0' '9', .range 'A' 'F', .range 'a' 'f']

/-- The characters of an escaped class letter. -/
def PerlClass.charSet (allScripts : Bool) : PerlClass → CharSet
  | .digit => if allScripts then .digit else PosixClass.charSet .digit
  | .space => if allScripts then .blank else PosixClass.charSet .space
  | .word => if allScripts then .word else PosixClass.charSet .word

/-- The characters with a property. -/
def Property.charSet : Property → CharSet
  | .decimalNumber => .digit
  | .whiteSpace => .blank

namespace Expr

/-- The set of a property; the question makes sense over all scripts only. -/
def propertySet (flags : Flags) (kind : Property) (negated : Bool) : Except PatternError CharSet :=
  if flags.allScripts then flags.negate negated (flags.fold kind.charSet)
  else .error .bytesOutsideAscii

/-- The set of what stands inside the brackets of a class. -/
def classSet (flags : Flags) : ClassItem → Except PatternError CharSet
  | .empty => .ok .none
  | .literal c =>
      if flags.allScripts || decide (c.toNat < 128) then .ok (.single c)
      else .error .bytesOutsideAscii
  | .range low high =>
      if flags.allScripts || decide (high.toNat < 128) then .ok (.range low high)
      else .error .bytesOutsideAscii
  | .posix kind negated => flags.negate negated (flags.fold kind.charSet)
  | .perl kind negated => flags.negate negated (kind.charSet flags.allScripts)
  | .property kind negated => propertySet flags kind negated
  | .union left right => do
      .ok (.union (← classSet flags left) (← classSet flags right))
  | .bracketed negated body => do flags.negate negated (flags.fold (← classSet flags body))
  | .operation operator left right => do
      let left := flags.fold (← classSet flags left)
      let right := flags.fold (← classSet flags right)
      match operator with
      | .inter => .ok (.inter left right)
      | .diff => .ok (.diff left right)
      | .symmDiff => .ok (.symmDiff left right)

/-- The set of one character as written. -/
def literalSet (flags : Flags) (c : Char) (fromByte : Bool) : Except PatternError CharSet :=
  if flags.allScripts then .ok (flags.fold (.single c))
  else if c.toNat < 128 then .ok (flags.fold (.single c))
  else if fromByte then .error .bytesOutsideAscii
  else .ok (.single c)

/-- The set of a dot. -/
def dotSet (flags : Flags) : Except PatternError CharSet :=
  if !flags.allScripts then .error .bytesOutsideAscii
  else if flags.dotMatchesNewLine then .ok .all
  else if flags.crlf then .ok (.complement (.union (.single '\n') (.single '\r')))
  else .ok (.complement (.single '\n'))

/-- The condition of an assertion. -/
def lookOf (flags : Flags) : Assertion → Look
  | .caret =>
      if !flags.multiLine then .textStart
      else if flags.crlf then .lineStartCrlf
      else .lineStart
  | .dollar =>
      if !flags.multiLine then .textEnd
      else if flags.crlf then .lineEndCrlf
      else .lineEnd
  | .textStart => .textStart
  | .textEnd => .textEnd
  | .boundary => .boundary (!flags.allScripts)
  | .notBoundary => .notBoundary (!flags.allScripts)
  | .wordStart => .wordStart (!flags.allScripts)
  | .wordEnd => .wordEnd (!flags.allScripts)
  | .wordStartHalf => .wordStartHalf (!flags.allScripts)
  | .wordEndHalf => .wordEndHalf (!flags.allScripts)

/-- The expression of a pattern under the flags in force, and the flags in force after it. -/
def interpret (flags : Flags) : Pattern → Except PatternError (Expr × Flags)
  | .empty => .ok (.empty, flags)
  | .flags changes => .ok (.empty, flags.apply changes)
  | .literal c fromByte => do .ok (.one (← literalSet flags c fromByte), flags)
  | .dot => do .ok (.one (← dotSet flags), flags)
  | .assertion kind => .ok (.look (lookOf flags kind), flags)
  | .perl kind negated => do
      .ok (.one (← flags.negate negated (kind.charSet flags.allScripts)), flags)
  | .property kind negated => do .ok (.one (← propertySet flags kind negated), flags)
  | .bracketed negated body => do
      .ok (.one (← flags.negate negated (flags.fold (← classSet flags body))), flags)
  | .repetition min max greedy body => do
      let (body, _) ← interpret flags body
      .ok (.ofRepetition min max (greedy != flags.swapGreed) body, flags)
  | .group kind body =>
      match kind with
      | .numbered index => do
          let (body, _) ← interpret flags body
          .ok (.group index none body, flags)
      | .named index name => do
          let (body, _) ← interpret flags body
          .ok (.group index (some name) body, flags)
      | .plain changes => do
          let (body, _) ← interpret (flags.apply changes) body
          .ok (.scope body, flags)
  | .alternation left right => do
      let (left, flags) ← interpret flags left
      let (right, flags) ← interpret flags right
      .ok (.alt left right, flags)
  | .concat first second => do
      let (first, flags) ← interpret flags first
      let (second, flags) ← interpret flags second
      .ok (.concat first second, flags)

/-- The expression that a pattern means. -/
def ofPattern (pattern : Pattern) : Except PatternError Expr := do
  let (expr, _) ← interpret ({} : Flags) pattern
  .ok expr

end Expr

end LogQuery.Regex
