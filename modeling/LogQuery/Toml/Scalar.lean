import LogQuery.Toml.Basic
import LogQuery.Time.Calendar

/-!
# TOML scalars

Strings, numbers, dates and times.  Every reader takes the text in front and yields what is left.
-/

namespace LogQuery.Toml

/-- A reading that may fail. -/
abbrev Result (α : Type) := Except DocumentError α

/-- Space and tab. -/
def isSpace (c : Char) : Bool :=
  c == ' ' || c == '\t'

/-- The text after spaces and tabs. -/
def skipSpace (text : List Char) : List Char :=
  text.dropWhile isSpace

/-- The text after one line break, if it begins with one. -/
def newline? : List Char → Option (List Char)
  | '\n' :: rest => some rest
  | '\r' :: '\n' :: rest => some rest
  | _ => none

/-- Characters that may stand in comments: no control characters but tabs. -/
def isPrintable (c : Char) : Bool :=
  c == '\t' || (32 ≤ c.toNat && c.toNat != 127)

/-- The text after a comment, if it begins with one. -/
def skipComment (text : List Char) : List Char :=
  match text with
  | '#' :: rest => rest.dropWhile isPrintable
  | _ => text

/-- The value of a digit in bases up to sixteen. -/
def digitValue? (c : Char) : Option Nat :=
  if '0' ≤ c ∧ c ≤ '9' then some (c.toNat - 48)
  else if 'a' ≤ c ∧ c ≤ 'f' then some (c.toNat - 87)
  else if 'A' ≤ c ∧ c ≤ 'F' then some (c.toNat - 55)
  else none

/-! ## Strings -/

/-- The character that hexadecimal digits name; surrogates are none. -/
def scalarOf (digits : List Char) : Result Char :=
  let code? := digits.foldl
    (fun total c => do some (16 * (← total) + (← digitValue? c))) (some 0)
  match code? with
  | some code =>
      if code < 0xD800 ∨ (0xDFFF < code ∧ code < 0x110000) then .ok (Char.ofNat code)
      else .error .malformed
  | none => .error .malformed

/-- The character that so many hexadecimal digits at the front name. -/
def readCode (count : Nat) (text : List Char) : Result (Char × List Char) := do
  if text.length < count then .error .malformed
  .ok (← scalarOf (text.take count), text.drop count)

/-- The escape whose backslash has been read. -/
def readEscape (edition : Edition) : List Char → Result (Char × List Char)
  | 'b' :: rest => .ok ('\x08', rest)
  | 't' :: rest => .ok ('\t', rest)
  | 'n' :: rest => .ok ('\n', rest)
  | 'f' :: rest => .ok ('\x0c', rest)
  | 'r' :: rest => .ok ('\r', rest)
  | '"' :: rest => .ok ('"', rest)
  | '\\' :: rest => .ok ('\\', rest)
  | 'u' :: rest => readCode 4 rest
  | 'U' :: rest => readCode 8 rest
  | 'x' :: rest => if edition.byteEscapes then readCode 2 rest else .error .malformed
  | 'e' :: rest => if edition.byteEscapes then .ok ('\x1b', rest) else .error .malformed
  | _ => .error .malformed

/-- A string in double quotes on one line, whose opening quote has been read. -/
def readBasic (edition : Edition) : Nat → List Char → Result (List Char × List Char)
  | 0, _ => .error .malformed
  | _ + 1, [] => .error .malformed
  | _ + 1, '"' :: rest => .ok ([], rest)
  | fuel + 1, '\\' :: rest => do
      let (c, rest) ← readEscape edition rest
      let (text, left) ← readBasic edition fuel rest
      .ok (c :: text, left)
  | fuel + 1, c :: rest => do
      if !isPrintable c then .error .malformed
      let (text, left) ← readBasic edition fuel rest
      .ok (c :: text, left)

/-- A string in single quotes on one line, whose opening quote has been read. -/
def readLiteral (text : List Char) : Result (List Char × List Char) :=
  let (inside, rest) := text.span fun c => isPrintable c && c != '\''
  match rest with
  | '\'' :: left => .ok (inside, left)
  | _ => .error .malformed

/-- How many characters of a kind stand in front. -/
def countFront (c : Char) (text : List Char) : Nat :=
  (text.takeWhile (· == c)).length

/-- A backslash at the end of a line leaves out the line break and all white space up to the next
other character; `none` if there is no line break. -/
def skipFoldedLines : Nat → List Char → Option (List Char)
  | 0, _ => none
  | fuel + 1, text => do
      let rest ← newline? (skipSpace text)
      some ((skipFoldedLines fuel rest).getD (skipSpace rest))

/-- A string between three quotes, whose opening quotes have been read.  One or two quotes may stand
inside, also right before the closing ones. -/
def readMultiline (edition : Edition) (quote : Char) (escapes : Bool) :
    Nat → List Char → Result (List Char × List Char)
  | 0, _ => .error .malformed
  | _ + 1, [] => .error .malformed
  | fuel + 1, c :: rest =>
      if c == quote then
        let count := countFront quote (c :: rest)
        if 3 ≤ count then
          if count ≤ 5 then .ok (List.replicate (count - 3) quote, rest.drop (count - 1))
          else .error .malformed
        else do
          let (text, left) ← readMultiline edition quote escapes fuel rest
          .ok (c :: text, left)
      else if c == '\\' && escapes then
        match skipFoldedLines (rest.length + 1) rest with
        | some rest => readMultiline edition quote escapes fuel rest
        | none => do
            let (c, rest) ← readEscape edition rest
            let (text, left) ← readMultiline edition quote escapes fuel rest
            .ok (c :: text, left)
      else
        match newline? (c :: rest) with
        | some rest => do
            let (text, left) ← readMultiline edition quote escapes fuel rest
            let text := '\n' :: text
            .ok (if c == '\r' && edition.keepsReturns then c :: text else text, left)
        | none => do
            if !isPrintable c then .error .malformed
            let (text, left) ← readMultiline edition quote escapes fuel rest
            .ok (c :: text, left)

/-- A string that the text begins with. -/
def readString (edition : Edition) (text : List Char) : Result (String × List Char) := do
  let afterBreak (rest : List Char) : List Char := (newline? rest).getD rest
  let (chars, left) ←
    match text with
    | '"' :: '"' :: '"' :: rest =>
        readMultiline edition '"' true (text.length + 1) (afterBreak rest)
    | '"' :: rest => readBasic edition (text.length + 1) rest
    | '\'' :: '\'' :: '\'' :: rest =>
        readMultiline edition '\'' false (text.length + 1) (afterBreak rest)
    | '\'' :: rest => readLiteral rest
    | _ => .error .malformed
  .ok (String.ofList chars, left)

/-! ## Numbers -/

/-- Digits with single underscores between them. -/
def readGrouped (isDigit : Char → Bool) : Nat → List Char → Option (List Char × List Char)
  | 0, _ => none
  | _ + 1, [] => none
  | fuel + 1, c :: rest =>
      if isDigit c then
        match rest with
        | '_' :: more =>
            (readGrouped isDigit fuel more).map fun (digits, left) => (c :: digits, left)
        | next :: _ =>
            if isDigit next then
              (readGrouped isDigit fuel rest).map fun (digits, left) => (c :: digits, left)
            else some ([c], rest)
        | [] => some ([c], [])
      else none

/-- The number that digits write in a base. -/
def numberOf (base : Nat) (digits : List Char) : Nat :=
  digits.foldl (fun total c => base * total + (digitValue? c).getD 0) 0

/-- The integer in sixty-four bits. -/
def integerInRange (value : Int) : Result Toml :=
  if -9223372036854775808 ≤ value ∧ value ≤ 9223372036854775807 then .ok (.integer value)
  else .error .malformed

/-- An integer in the base that a letter after the zero names. -/
def readBased (base : Nat) (text : List Char) : Result (Toml × List Char) := do
  let isDigit (c : Char) : Bool := (digitValue? c).any (· < base)
  match readGrouped isDigit (text.length + 1) text with
  | some (digits, left) => .ok (← integerInRange (numberOf base digits), left)
  | none => .error .malformed

/-- Decimal digits, with no leading zero but a lone one. -/
def readDecimal? (text : List Char) : Option (List Char × List Char) :=
  match text with
  | '0' :: rest =>
      if rest.head?.any (fun c => c.isDigit || c == '_') then none else some (['0'], rest)
  | _ => readGrouped Char.isDigit (text.length + 1) text

/-- A point and digits, if a point comes next. -/
def readFraction (text : List Char) : Result (Option (List Char) × List Char) :=
  match text with
  | '.' :: rest =>
      match readGrouped Char.isDigit (rest.length + 1) rest with
      | some (digits, left) => .ok (some digits, left)
      | none => .error .malformed
  | _ => .ok (none, text)

/-- An exponent, if its letter comes next. -/
def readExponent (text : List Char) : Result (Option Int × List Char) :=
  match text with
  | c :: rest =>
      if c == 'e' || c == 'E' then
        let (negative, rest) := match rest with
          | '-' :: more => (true, more)
          | '+' :: more => (false, more)
          | _ => (false, rest)
        match readGrouped Char.isDigit (rest.length + 1) rest with
        | some (digits, left) =>
            let value : Int := numberOf 10 digits
            .ok (some (if negative then -value else value), left)
        | none => .error .malformed
      else .ok (none, text)
  | [] => .ok (none, text)

/-- The double nearest to `digits · 10 ^ exponent`.  An exponent far beyond the doubles gives zero
or infinity without computing the power. -/
def nearestDouble (digits : Nat) (exponent : Int) : Float :=
  if digits = 0 then 0
  else
    let size : Int := (Nat.toDigits 10 digits).length
    if exponent + size < -400 then 0
    else if 400 < exponent + size then 1 / 0
    else Float.ofScientific digits (exponent < 0) exponent.natAbs

/-- A number after its sign. -/
def readUnsigned (edition : Edition) (negative signed : Bool) (text : List Char) :
    Result (Toml × List Char) := do
  let apply (value : Float) : Float := if negative then -value else value
  match text with
  | 'i' :: 'n' :: 'f' :: rest => .ok (.float (apply (1 / 0)), rest)
  | 'n' :: 'a' :: 'n' :: rest => .ok (.float (0 / 0), rest)
  | '0' :: letter :: rest =>
      if letter == 'x' && !signed then readBased 16 rest
      else if letter == 'o' && !signed then readBased 8 rest
      else if letter == 'b' && !signed then readBased 2 rest
      else decimal apply text
  | _ => decimal apply text
where
  /-- An integer or a float in decimal digits. -/
  decimal (apply : Float → Float) (text : List Char) : Result (Toml × List Char) := do
    match readDecimal? text with
    | none => .error .malformed
    | some (whole, rest) => do
        let (fraction, rest) ← readFraction rest
        let (exponent, rest) ← readExponent rest
        match fraction, exponent with
        | none, none =>
            let value : Int := numberOf 10 whole
            .ok (← integerInRange (if negative then -value else value), rest)
        | _, _ =>
            let fraction := fraction.getD []
            let value := apply (nearestDouble (numberOf 10 (whole ++ fraction))
              (exponent.getD 0 - fraction.length))
            if value.isInf && !(negative && edition.negativeOverflow) then .error .malformed
            else .ok (.float value, rest)

/-- A number with or without a sign. -/
def readNumber (edition : Edition) : List Char → Result (Toml × List Char)
  | '+' :: rest => readUnsigned edition false true rest
  | '-' :: rest => readUnsigned edition true true rest
  | rest => readUnsigned edition false false rest

/-! ## Dates and times -/

/-- Exactly so many decimal digits. -/
def takeDigits? (count : Nat) (text : List Char) : Option (Nat × List Char) :=
  let digits := text.take count
  if digits.length = count ∧ digits.all Char.isDigit then
    some (numberOf 10 digits, text.drop count)
  else none

/-- The text after one expected character. -/
def expect? (expected : Char) : List Char → Option (List Char)
  | c :: rest => if c == expected then some rest else none
  | [] => none

/-- Year, month and day at the front; the date has to exist. -/
def readDate? (text : List Char) : Option (List Char × List Char) := do
  let (year, rest) ← takeDigits? 4 text
  let (month, rest) ← takeDigits? 2 (← expect? '-' rest)
  let (day, rest) ← takeDigits? 2 (← expect? '-' rest)
  if (Time.Date.mk year month day).isValid then some (text.take 10, rest) else none

/-- The digits after the point of a second: at most nine count, and of zeros at the end only one
that stands alone does. -/
def readSubsecond? (text : List Char) : Option (List Char × List Char) :=
  match text with
  | '.' :: rest =>
      let (digits, left) := rest.span Char.isDigit
      let kept := ((digits.take 9).reverse.dropWhile (· == '0')).reverse
      if digits.isEmpty then none
      else some ('.' :: (if kept.isEmpty then ['0'] else kept), left)
  | _ => some ([], text)

/-- Hour, minute and second at the front. -/
def readTime? (edition : Edition) (text : List Char) : Option (List Char × List Char) := do
  let (hour, rest) ← takeDigits? 2 text
  let (minute, rest) ← takeDigits? 2 (← expect? ':' rest)
  if 23 < hour ∨ 59 < minute then none
  match expect? ':' rest with
  | some rest =>
      let (second, rest) ← takeDigits? 2 rest
      let (fraction, rest) ← readSubsecond? rest
      if second ≤ 60 then some (text.take 8 ++ fraction, rest) else none
  | none => if edition.shortTimes && rest.head? != some '.' then some (text.take 5, rest) else none

/-- The distance from UTC at the front, if there is one; none at all is written with a plus. -/
def readZone? (text : List Char) : Option (List Char × List Char) := do
  match text with
  | [] => some ([], [])
  | c :: rest =>
      if c == 'Z' || c == 'z' then some (['Z'], rest)
      else if c == '+' || c == '-' then
        let (hours, left) ← takeDigits? 2 rest
        let (minutes, left) ← takeDigits? 2 (← expect? ':' left)
        if 23 < hours ∨ 59 < minutes then none
        some ((if hours = 0 ∧ minutes = 0 then '+' else c) :: rest.take 5, left)
      else some ([], text)

/-- A date, a time, or both with or without a distance from UTC. -/
def readDatetime? (edition : Edition) (text : List Char) : Option (List Char × List Char) :=
  match readDate? text with
  | some (date, rest) =>
      let separated := match rest with
        | c :: more => if c == 'T' || c == 't' || c == ' ' then some (c, more) else none
        | [] => none
      match separated with
      | none => some (date, rest)
      | some (separator, more) =>
          match readTime? edition more with
          | some (time, left) =>
              (readZone? left).map fun (zone, left) => (date ++ 'T' :: time ++ zone, left)
          | none => if separator == ' ' then some (date, rest) else none
  | none => readTime? edition text

end LogQuery.Toml
