import LogQuery.Regex.Pattern
import LogQuery.Text.Alphabetic
import LogQuery.Text.Blank

/-!
# Reading patterns

One pass over the text with a stack of open groups; a bracketed class has a stack of its own.  Every
step consumes at least one character, so the length of the text bounds the number of steps.

A node carries its height, since patterns nested deeper than 250 levels are refused.  Literals,
escapes and assertions have height zero; groups, repetitions, classes, and sequences or alternations
of two or more each add one.
-/

namespace LogQuery.Regex

open LogQuery.Text

/-- The deepest nesting that is read. -/
def nestLimit : Nat := 250

/-- A part that has been read, with the height of its tree. -/
structure Sized (α : Type) where
  value : α
  height : Nat

namespace Sized

/-- Join the parts of a sequence, which are given in reverse: none is `empty`, one stands for
itself, and more add a level. -/
def joinReversed {α : Type} (empty : α) (join : α → α → α) (reversed : List (Sized α)) : Sized α :=
  match reversed with
  | [] => ⟨empty, 0⟩
  | [only] => only
  | last :: earlier =>
      ⟨earlier.foldl (fun joined item => join item.value joined) last.value,
        1 + reversed.foldl (fun height item => Nat.max height item.height) 0⟩

end Sized

namespace Reader

/-- Skip white space and comments, when the flag `x` is set. -/
def skipSpaceFuel : Nat → Bool → List Char → List Char
  | 0, _, text => text
  | _, false, text => text
  | fuel + 1, true, c :: rest =>
      if isBlank c then skipSpaceFuel fuel true rest
      else if c == '#' then skipSpaceFuel fuel true ((rest.dropWhile (· != '\n')).drop 1)
      else c :: rest
  | _ + 1, true, [] => []

/-- Skip white space and comments, when the flag `x` is set. -/
def skipSpace (spaced : Bool) (text : List Char) : List Char :=
  skipSpaceFuel text.length spaced text

/-- The character after the head of a class, where the flag `x` passes over white space. -/
def peekAfter (spaced : Bool) (rest : List Char) : Option Char :=
  if spaced then
    let passed := rest.dropWhile isBlank
    let stop :=
      match passed with
      | '#' :: more => more.dropWhile isBlank
      | _ => passed
    if stop.isEmpty then rest.head? else stop.head?
  else rest.head?

/-- A reading that may fail. -/
abbrev Result (α : Type) := Except PatternError α

/-! ## Numbers and escapes -/

/-- The largest count that fits the width of a repetition. -/
def maxCount : Nat := 4294967295

/-- The digits at the front; between and after them the flag `x` allows white space. -/
def takeDigits (spaced : Bool) : Nat → List Char → List Char × List Char
  | 0, text => ([], text)
  | _ + 1, [] => ([], [])
  | fuel + 1, c :: rest =>
      if c.isDigit then
        let (digits, left) := takeDigits spaced fuel (skipSpace spaced rest)
        (c :: digits, left)
      else ([], c :: rest)

/-- A decimal count, with white space around it; `none` when there is no digit. -/
def readCount (spaced : Bool) (text : List Char) : Result (Option Nat × List Char) :=
  let (digits, rest) := takeDigits spaced (text.length + 1) (text.dropWhile isBlank)
  let rest := skipSpace spaced (rest.dropWhile isBlank)
  let value := digits.foldl (fun total digit => 10 * total + (digit.toNat - 48)) 0
  if digits.isEmpty then .ok (none, rest)
  else if maxCount < value then .error .repetitionCount
  else .ok (some value, rest)

/-- The value of a hexadecimal digit. -/
def hexValue? (c : Char) : Option Nat :=
  if '0' ≤ c ∧ c ≤ '9' then some (c.toNat - 48)
  else if 'a' ≤ c ∧ c ≤ 'f' then some (c.toNat - 87)
  else if 'A' ≤ c ∧ c ≤ 'F' then some (c.toNat - 55)
  else none

/-- The character with a code point, unless the number is no scalar value. -/
def scalar? (code : Nat) : Option Char :=
  if code < 0xD800 ∨ (0xDFFF < code ∧ code < 0x110000) then some (Char.ofNat code) else none

/-- The number that hexadecimal digits write. -/
def hexNumber (digits : List Nat) : Nat :=
  digits.foldl (fun total digit => 16 * total + digit) 0

/-- Exactly `count` hexadecimal digits. -/
def readHexDigits (spaced : Bool) : Nat → List Char → Result (List Nat × List Char)
  | 0, text => .ok ([], text)
  | _ + 1, [] => .error .escapeUnfinished
  | count + 1, c :: rest =>
      match hexValue? c with
      | none => .error .hexadecimal
      | some digit => do
          let (digits, left) ← readHexDigits spaced count (skipSpace spaced rest)
          .ok (digit :: digits, left)

/-- Hexadecimal digits up to a closing brace. -/
def readHexBrace (spaced : Bool) : Nat → List Char → Result (List Nat × List Char)
  | 0, _ => .error .escapeUnfinished
  | _ + 1, [] => .error .escapeUnfinished
  | _ + 1, '\x7d' :: rest => .ok ([], skipSpace spaced rest)
  | fuel + 1, c :: rest =>
      match hexValue? c with
      | none => .error .hexadecimal
      | some digit => do
          let (digits, left) ← readHexBrace spaced fuel (skipSpace spaced rest)
          .ok (digit :: digits, left)

/-- The character that the letter `x`, `u` or `U` with its digits writes. -/
def readHex (spaced : Bool) (width : Nat) (text : List Char) : Result (Pattern × List Char) := do
  match skipSpace spaced text with
  | [] => .error .escapeUnfinished
  | '\x7b' :: rest =>
      let (digits, left) ← readHexBrace spaced (rest.length + 1) (skipSpace spaced rest)
      match digits, scalar? (hexNumber digits) with
      | _ :: _, some c => .ok (.literal c false, left)
      | _, _ => .error .hexadecimal
  | rest =>
      let (digits, left) ← readHexDigits spaced width rest
      match scalar? (hexNumber digits) with
      | some c => .ok (.literal c (width == 2), left)
      | none => .error .hexadecimal

/-- The name of a property as it is compared: without an `is` that it begins with, in lower case,
and without spaces, hyphens and underscores. -/
def plainName (name : List Char) : String :=
  let bare := match name with
    | first :: second :: rest =>
        if first.toLower == 'i' && second.toLower == 's' then rest else name
    | _ => name
  let kept := bare.filter fun c => decide (c.toNat < 128) && c != ' ' && c != '_' && c != '-'
  String.ofList (kept.map Char.toLower)

/-- The properties that are known by a name alone. -/
def propertyNamed? (name : String) : Option Property :=
  if name ∈ ["nd", "digit", "decimalnumber"] then some .decimalNumber
  else if name ∈ ["whitespace", "wspace", "space"] then some .whiteSpace
  else none

/-- The property that a query between braces asks for, and whether the query denies it. -/
def propertyOfQuery (query : List Char) : Except PatternError (Property × Bool) :=
  let byValue (name value : List Char) (negated : Bool) :=
    if plainName name ∈ ["gc", "generalcategory"] ∧
        plainName value ∈ ["nd", "digit", "decimalnumber"] then
      .ok (.decimalNumber, negated)
    else .error (.property (String.ofList query))
  let (name, value) := query.span (· != '=')
  match value with
  | _ :: value =>
      if name.getLast? == some '!' then byValue name.dropLast value true
      else
        let (left, right) := query.span (· != ':')
        if right.isEmpty then byValue name value false
        else byValue left (right.drop 1) false
  | [] =>
      let (left, right) := query.span (· != ':')
      if right.isEmpty then
        match propertyNamed? (plainName query) with
        | some property => .ok (property, false)
        | none => .error (.property (String.ofList query))
      else byValue left (right.drop 1) false

/-- The characters up to a closing brace, without those that the flag `x` skips. -/
def takeBrace (spaced : Bool) : Nat → List Char → Result (List Char × List Char)
  | 0, _ => .error .escapeUnfinished
  | fuel + 1, text =>
      match text with
      | [] => .error .escapeUnfinished
      | '\x7d' :: rest => .ok ([], rest)
      | c :: rest => do
          let (taken, left) ← takeBrace spaced fuel (skipSpace spaced rest)
          .ok (c :: taken, left)

/-- The property after `\p` or `\P`. -/
def readProperty (spaced negated : Bool) (text : List Char) : Result (Pattern × List Char) := do
  match skipSpace spaced text with
  | [] => .error .escapeUnfinished
  | '\x7b' :: rest =>
      let (query, left) ← takeBrace spaced (rest.length + 1) (skipSpace spaced rest)
      let (property, denied) ← propertyOfQuery query
      .ok (.property property (negated != denied), left)
  | '\\' :: _ => .error .escapeUnfinished
  | c :: _ => .error (.property (String.singleton c))

/-- The characters with a meaning of their own. -/
def isMeta (c : Char) : Bool :=
  c ∈ ['\\', '.', '+', '*', '?', '(', ')', '|', '[', ']', '\x7b', '\x7d', '^', '$', '#', '&',
    '-', '~']

/-- The ASCII characters that a backslash leaves as they are. -/
def isPlainEscape (c : Char) : Bool :=
  isMeta c || (decide (c.toNat < 128) && !c.isAlphanum && c != '<' && c != '>')

/-- The boundary that a name between braces after `\b` means. -/
def boundaryNamed? (name : String) : Option Assertion :=
  if name == "start" then some .wordStart
  else if name == "end" then some .wordEnd
  else if name == "start-half" then some .wordStartHalf
  else if name == "end-half" then some .wordEndHalf
  else none

/-- Letters and hyphens at the front, without what the flag `x` skips. -/
def takeBoundaryName (spaced : Bool) : Nat → List Char → List Char × List Char
  | 0, text => ([], text)
  | _ + 1, [] => ([], [])
  | fuel + 1, c :: rest =>
      if c.isAlpha || c == '-' then
        let (taken, left) := takeBoundaryName spaced fuel (skipSpace spaced rest)
        (c :: taken, left)
      else ([], c :: rest)

/-- What follows `\b`: a name between braces, or nothing of its own. -/
def readBoundary (spaced : Bool) (text : List Char) : Result (Pattern × List Char) :=
  match text with
  | '\x7b' :: rest =>
      match skipSpace spaced rest with
      | [] => .error .escapeUnfinished
      | c :: more =>
          if c.isAlpha || c == '-' then
            let (name, left) := takeBoundaryName spaced (rest.length + 1) (c :: more)
            let name := String.ofList name
            match left, boundaryNamed? name with
            | '\x7d' :: left, some kind => .ok (.assertion kind, left)
            | _, _ => .error (.boundaryName name)
          else .ok (.assertion .boundary, text)
  | _ => .ok (.assertion .boundary, text)

/-- The escape whose backslash has been read. -/
def readEscape (spaced : Bool) : List Char → Result (Pattern × List Char)
  | [] => .error .escapeUnfinished
  | c :: rest =>
      match c with
      | 'x' => readHex spaced 2 rest
      | 'u' => readHex spaced 4 rest
      | 'U' => readHex spaced 8 rest
      | 'p' => readProperty spaced false rest
      | 'P' => readProperty spaced true rest
      | 'd' => .ok (.perl .digit false, rest)
      | 'D' => .ok (.perl .digit true, rest)
      | 's' => .ok (.perl .space false, rest)
      | 'S' => .ok (.perl .space true, rest)
      | 'w' => .ok (.perl .word false, rest)
      | 'W' => .ok (.perl .word true, rest)
      | 'a' => .ok (.literal '\x07' false, rest)
      | 'f' => .ok (.literal '\x0c' false, rest)
      | 't' => .ok (.literal '\t' false, rest)
      | 'n' => .ok (.literal '\n' false, rest)
      | 'r' => .ok (.literal '\r' false, rest)
      | 'v' => .ok (.literal '\x0b' false, rest)
      | 'A' => .ok (.assertion .textStart, rest)
      | 'z' => .ok (.assertion .textEnd, rest)
      | 'b' => readBoundary spaced rest
      | 'B' => .ok (.assertion .notBoundary, rest)
      | '<' => .ok (.assertion .wordStart, rest)
      | '>' => .ok (.assertion .wordEnd, rest)
      | _ =>
          if c.isDigit then .error .backreference
          else if isPlainEscape c then .ok (.literal c false, rest)
          else .error (.escapeUnknown c)

/-! ## Bracketed classes -/

/-- What has been read of a class and still waits for its closing bracket. -/
inductive ClassFrame where
  /-- An opening bracket: the items before it in the class around it, and its negation. -/
  | opened (before : List (Sized ClassItem)) (negated : Bool)
  /-- The left operand of a set operation. -/
  | operand (operator : SetOperator) (left : Sized ClassItem)

/-- The class items of a union, given in reverse. -/
def joinItems (reversed : List (Sized ClassItem)) : Sized ClassItem :=
  Sized.joinReversed .empty .union reversed

/-- Apply the operation that waits on top of the stack, if one does. -/
def applyOperator (right : Sized ClassItem) : List ClassFrame → Sized ClassItem × List ClassFrame
  | .operand operator left :: frames =>
      (⟨.operation operator left.value right.value, 1 + Nat.max left.height right.height⟩, frames)
  | frames => (right, frames)

/-- The class that a name between `[:` and `:]` means. -/
def posixNamed? (name : String) : Option PosixClass :=
  match name with
  | "alnum" => some .alnum
  | "alpha" => some .alpha
  | "ascii" => some .ascii
  | "blank" => some .blank
  | "cntrl" => some .cntrl
  | "digit" => some .digit
  | "graph" => some .graph
  | "lower" => some .lower
  | "print" => some .print
  | "punct" => some .punct
  | "space" => some .space
  | "upper" => some .upper
  | "word" => some .word
  | "xdigit" => some .xdigit
  | _ => none

/-- A class such as `[:alpha:]`, given what follows its first bracket; otherwise nothing is read. -/
def readPosix? : List Char → Option (ClassItem × List Char)
  | ':' :: rest =>
      let (negated, rest) := match rest with
        | '^' :: more => (true, more)
        | _ => (false, rest)
      let (name, left) := rest.span (· != ':')
      match left, posixNamed? (String.ofList name) with
      | ':' :: ']' :: left, some kind => some (.posix kind negated, left)
      | _, _ => none
  | _ => none

/-- The literal hyphens at the front of a class, in reverse order before `items`. -/
def takeHyphens (spaced : Bool) : Nat → List (Sized ClassItem) → List Char →
    List (Sized ClassItem) × List Char
  | 0, items, text => (items, text)
  | fuel + 1, items, text =>
      match text with
      | '-' :: rest => takeHyphens spaced fuel (⟨.literal '-', 0⟩ :: items) (skipSpace spaced rest)
      | _ => (items, text)

/-- What may follow an opening bracket: a negation, hyphens, and a bracket that stands for
itself. -/
def readClassOpening (spaced : Bool) (text : List Char) :
    Result (Bool × List (Sized ClassItem) × List Char) :=
  let text := skipSpace spaced text
  let (negated, text) := match text with
    | '^' :: rest => (true, skipSpace spaced rest)
    | _ => (false, text)
  let (items, text) := takeHyphens spaced text.length [] text
  match items, text with
  | _, [] => .error .classUnclosed
  | [], ']' :: rest =>
      let rest := skipSpace spaced rest
      if rest.isEmpty then .error .classUnclosed else .ok (negated, [⟨.literal ']', 0⟩], rest)
  | _, _ => .ok (negated, items, text)

/-- One character or escape inside a class. -/
def readClassAtom (spaced : Bool) : List Char → Result (Pattern × List Char)
  | [] => .error .classUnclosed
  | '\\' :: rest => readEscape spaced rest
  | c :: rest => .ok (.literal c false, rest)

/-- An escape as an item of a class. -/
def itemOfAtom : Pattern → Except PatternError ClassItem
  | .literal c _ => .ok (.literal c)
  | .perl kind negated => .ok (.perl kind negated)
  | .property kind negated => .ok (.property kind negated)
  | _ => .error .classEscape

/-- An escape as an end of a range. -/
def endOfAtom : Pattern → Except PatternError Char
  | .literal c _ => .ok c
  | _ => .error .classRange

/-- An item of a class: a range when a hyphen follows that neither closes the class nor begins a
difference. -/
def readClassItem (spaced : Bool) (text : List Char) : Result (ClassItem × List Char) := do
  let (first, rest) ← readClassAtom spaced text
  match skipSpace spaced rest with
  | [] => .error .classUnclosed
  | '-' :: more =>
      let next := peekAfter spaced more
      if next == some ']' || next == some '-' then
        let item ← itemOfAtom first
        .ok (item, '-' :: more)
      else
        let (second, left) ← readClassAtom spaced (skipSpace spaced more)
        let low ← endOfAtom first
        let high ← endOfAtom second
        if high < low then .error .classRange else .ok (.range low high, left)
  | left => do
      let item ← itemOfAtom first
      .ok (item, left)

/-- The rest of a class, whose outermost bracket is the last frame of the stack. -/
def readClassFuel (spaced : Bool) :
    Nat → List ClassFrame → List (Sized ClassItem) → List Char → Result (Sized Pattern × List Char)
  | 0, _, _, _ => .error .classUnclosed
  | fuel + 1, frames, items, text =>
      let operation (operator : SetOperator) (rest : List Char) :=
        let (left, frames) := applyOperator (joinItems items) frames
        readClassFuel spaced fuel (.operand operator left :: frames) [] rest
      match skipSpace spaced text with
      | [] => .error .classUnclosed
      | '[' :: rest =>
          match readPosix? rest with
          | some (item, left) => readClassFuel spaced fuel frames (⟨item, 0⟩ :: items) left
          | none => do
              let (negated, inner, left) ← readClassOpening spaced rest
              readClassFuel spaced fuel (.opened items negated :: frames) inner left
      | ']' :: rest =>
          let (body, frames) := applyOperator (joinItems items) frames
          match frames with
          | [.opened _ negated] => .ok (⟨.bracketed negated body.value, 1 + body.height⟩, rest)
          | .opened before negated :: frames =>
              readClassFuel spaced fuel frames
                (⟨.bracketed negated body.value, 1 + body.height⟩ :: before) rest
          | _ => .error .classUnclosed
      | '&' :: '&' :: rest => operation .inter rest
      | '-' :: '-' :: rest => operation .diff rest
      | '~' :: '~' :: rest => operation .symmDiff rest
      | text => do
          let (item, left) ← readClassItem spaced text
          readClassFuel spaced fuel frames (⟨item, 0⟩ :: items) left

/-- The class whose opening bracket has been read. -/
def readClass (spaced : Bool) (text : List Char) : Result (Sized Pattern × List Char) := do
  let (negated, items, rest) ← readClassOpening spaced text
  readClassFuel spaced (text.length + 1) [.opened [] negated] items rest

/-! ## Groups -/

/-- The flag of a letter. -/
def flagOf? : Char → Option Flag
  | 'i' => some .caseInsensitive
  | 'm' => some .multiLine
  | 's' => some .dotMatchesNewLine
  | 'U' => some .swapGreed
  | 'u' => some .allScripts
  | 'R' => some .crlf
  | 'x' => some .ignoreSpace
  | _ => none

/-- The flags up to a colon or a closing parenthesis: each once, with at most one minus, which some
flag follows. -/
def readFlags : (changes : FlagChanges) → (negated dangling : Bool) → List Char →
    Result (FlagChanges × List Char)
  | _, _, _, [] => .error .flags
  | changes, negated, dangling, c :: rest =>
      if c == ':' || c == ')' then
        if dangling then .error .flags else .ok (changes, c :: rest)
      else if c == '-' then
        if negated then .error .flags else readFlags changes true true rest
      else
        match flagOf? c with
        | none => .error .flags
        | some flag =>
            if changes.any (·.1 == flag) then .error .flags
            else readFlags (changes ++ [(flag, !negated)]) negated false rest

/-- Whether a character may stand in the name of a group. -/
def isNameChar (first : Bool) (c : Char) : Bool :=
  c == '_' || isAlphabetic c ||
    (!first && (c == '.' || c == '[' || c == ']' || isNumeric c))

/-- The name of a group up to its closing angle bracket. -/
def readGroupName (text : List Char) : Result (String × List Char) :=
  let (name, rest) := text.span (· != '>')
  let written := String.ofList name
  match name, rest with
  | first :: others, _ :: left =>
      if isNameChar true first && others.all (isNameChar false) then .ok (written, left)
      else .error (.groupName written)
  | _, _ => .error (.groupName written)

/-- What an opening parenthesis begins. -/
inductive Opening where
  | flags (changes : FlagChanges)
  | group (kind : GroupKind)

/-- What follows an opening parenthesis, up to the body of the group. -/
def readOpening (spaced : Bool) (nextIndex : Nat) (text : List Char) :
    Result (Opening × List Char) :=
  let named (rest : List Char) : Result (Opening × List Char) := do
    let (name, left) ← readGroupName rest
    .ok (.group (.named nextIndex name), left)
  match skipSpace spaced text with
  | '?' :: '=' :: _ | '?' :: '!' :: _ | '?' :: '<' :: '=' :: _ | '?' :: '<' :: '!' :: _ =>
      .error .lookAround
  | '?' :: 'P' :: '<' :: rest => named rest
  | '?' :: '<' :: rest => named rest
  | '?' :: rest => do
      let (changes, left) ← readFlags [] false false rest
      match left with
      | ')' :: left =>
          if changes.isEmpty then .error .repetitionMissing else .ok (.flags changes, left)
      | _ => .ok (.group (.plain changes), left.drop 1)
  | left => .ok (.group (.numbered nextIndex), left)

/-- An open group: what stands before it, and the state to return to. -/
structure GroupFrame where
  kind : GroupKind
  /-- The finished branches of the alternation around the group, in reverse. -/
  branches : List (Sized Pattern)
  /-- The items of the branch around the group, in reverse. -/
  items : List (Sized Pattern)
  /-- The flag `x` around the group. -/
  spaced : Bool

/-- The state of the pass over a pattern. -/
structure State where
  frames : List GroupFrame
  branches : List (Sized Pattern)
  items : List (Sized Pattern)
  spaced : Bool
  nextIndex : Nat
  names : List String

namespace State

/-- Nothing has been read yet. -/
def start : State := ⟨[], [], [], false, 1, []⟩

/-- The alternation that the branches and the items read so far make. -/
def body (state : State) : Sized Pattern :=
  let branch := Sized.joinReversed .empty .concat state.items
  Sized.joinReversed .empty .alternation (branch :: state.branches)

/-- Replace the last item by its repetition. -/
def repeatLast (state : State) (min : Nat) (max : Option Nat) (greedy : Bool) :
    Except PatternError State :=
  match state.items with
  | [] | ⟨.flags _, _⟩ :: _ => .error .repetitionMissing
  | ⟨last, height⟩ :: items =>
      .ok { state with items := ⟨.repetition min max greedy last, 1 + height⟩ :: items }

/-- Enter a group. -/
def openGroup (state : State) (opening : Opening) : Except PatternError State :=
  let setting? (changes : FlagChanges) : Option Bool := changes.lookup .ignoreSpace
  match opening with
  | .flags changes =>
      .ok { state with
        items := ⟨.flags changes, 0⟩ :: state.items
        spaced := (setting? changes).getD state.spaced }
  | .group kind =>
      let entered (spaced : Bool) : State :=
        { state with
          frames := ⟨kind, state.branches, state.items, state.spaced⟩ :: state.frames
          branches := []
          items := []
          spaced := spaced }
      match kind with
      | .plain changes => .ok (entered ((setting? changes).getD state.spaced))
      | .numbered _ => .ok { entered state.spaced with nextIndex := state.nextIndex + 1 }
      | .named _ name =>
          if name ∈ state.names then .error (.groupNameTwice name)
          else
            .ok { entered state.spaced with
              nextIndex := state.nextIndex + 1
              names := name :: state.names }

/-- Leave the innermost group. -/
def closeGroup (state : State) : Except PatternError State :=
  match state.frames with
  | [] => .error .groupUnopened
  | frame :: frames =>
      let body := state.body
      .ok { state with
        frames := frames
        branches := frame.branches
        items := ⟨.group frame.kind body.value, 1 + body.height⟩ :: frame.items
        spaced := frame.spaced }

/-- Add an item to the current branch. -/
def push (state : State) (item : Sized Pattern) : State :=
  { state with items := item :: state.items }

end State

/-- The counts between the braces of a repetition, whose opening brace has been read. -/
def readCounts (spaced : Bool) (text : List Char) : Result (Nat × Option Nat × List Char) := do
  let text := skipSpace spaced text
  if text.isEmpty then .error .repetitionCount
  let (min, rest) ← readCount spaced text
  let close (counts : Nat × Option Nat) (rest : List Char) :
      Result (Nat × Option Nat × List Char) :=
    match rest with
    | '\x7d' :: left => .ok (counts.1, counts.2, left)
    | _ => .error .repetitionCount
  match min, rest with
  | some min, ',' :: rest =>
      match skipSpace spaced rest with
      | '\x7d' :: left => .ok (min, none, left)
      | rest => do
          let (max, rest) ← readCount spaced rest
          match max with
          | some max => close (min, some max) rest
          | none => .error .repetitionCount
  | some min, rest => close (min, some min) rest
  | none, _ => .error .repetitionCount

/-- Whether a repetition is greedy: a question mark right after it makes it lazy. -/
def readGreedy : List Char → Bool × List Char
  | '?' :: rest => (false, rest)
  | rest => (true, rest)

/-- The rest of a pattern. -/
def readFuel : Nat → State → List Char → Except PatternError (Sized Pattern)
  | 0, _, _ => .error .groupUnclosed
  | fuel + 1, state, text =>
      let uncounted (min : Nat) (max : Option Nat) (rest : List Char) := do
        let (greedy, left) := readGreedy rest
        readFuel fuel (← state.repeatLast min max greedy) left
      match skipSpace state.spaced text with
      | [] => if state.frames.isEmpty then .ok state.body else .error .groupUnclosed
      | '(' :: rest => do
          let (opening, left) ← readOpening state.spaced state.nextIndex rest
          readFuel fuel (← state.openGroup opening) left
      | ')' :: rest => do readFuel fuel (← state.closeGroup) rest
      | '|' :: rest =>
          let branch := Sized.joinReversed .empty .concat state.items
          readFuel fuel { state with branches := branch :: state.branches, items := [] } rest
      | '[' :: rest => do
          let (item, left) ← readClass state.spaced rest
          readFuel fuel (state.push item) left
      | '?' :: rest => uncounted 0 (some 1) rest
      | '*' :: rest => uncounted 0 none rest
      | '+' :: rest => uncounted 1 none rest
      | '\x7b' :: rest => do
          let (min, max, left) ← readCounts state.spaced rest
          let (greedy, left) := readGreedy (skipSpace state.spaced left)
          if max.any (· < min) then .error .repetitionCount
          readFuel fuel (← state.repeatLast min max greedy) left
      | '\\' :: rest => do
          let (item, left) ← readEscape state.spaced rest
          readFuel fuel (state.push ⟨item, 0⟩) left
      | '.' :: rest => readFuel fuel (state.push ⟨.dot, 0⟩) rest
      | '^' :: rest => readFuel fuel (state.push ⟨.assertion .caret, 0⟩) rest
      | '$' :: rest => readFuel fuel (state.push ⟨.assertion .dollar, 0⟩) rest
      | c :: rest => readFuel fuel (state.push ⟨.literal c false, 0⟩) rest

end Reader

/-- Read a pattern. -/
def Pattern.read (text : List Char) : Except PatternError Pattern := do
  let pattern ← Reader.readFuel (text.length + 1) .start text
  if nestLimit < pattern.height then .error .nestedTooDeeply else .ok pattern.value

end LogQuery.Regex
