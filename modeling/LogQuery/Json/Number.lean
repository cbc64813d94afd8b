import LogQuery.Json.Basic

/-!
# JSON numbers

An integer of 64 bits, signed or unsigned, is kept exactly.  Any other number becomes a double: the
leading digits, as far as they fit 64 bits, times or divided by the double nearest to a power of
ten.  Minus zero is a double.
-/

namespace LogQuery.Json

/-- The parts of a written number. -/
structure NumberText where
  negative : Bool
  whole : List Char
  /-- The digits after the point, if there is one. -/
  fraction : Option (List Char)
  /-- Sign and digits of the exponent, if there is one. -/
  exponent : Option (Bool × List Char)

/-- Digits at the front, and the rest. -/
def spanDigits (text : List Char) : List Char × List Char :=
  text.span Char.isDigit

/-- A point with at least one digit after it, or nothing. -/
def readFraction? : List Char → Option (Option (List Char) × List Char)
  | '.' :: rest =>
      let (digits, left) := spanDigits rest
      if digits.isEmpty then none else some (some digits, left)
  | rest => some (none, rest)

/-- The letter `e`, perhaps a sign, and at least one digit, or nothing. -/
def readExponent? : List Char → Option (Option (Bool × List Char) × List Char)
  | c :: rest =>
      if c == 'e' || c == 'E' then
        let (negative, rest) := match rest with
          | '-' :: more => (true, more)
          | '+' :: more => (false, more)
          | _ => (false, rest)
        let (digits, left) := spanDigits rest
        if digits.isEmpty then none else some (some (negative, digits), left)
      else some (none, c :: rest)
  | [] => some (none, [])

/-- The parts of the number at the front of a text: no leading zero but the only one. -/
def readNumberText? (text : List Char) : Option (NumberText × List Char) := do
  let (negative, text) := match text with
    | '-' :: rest => (true, rest)
    | _ => (false, text)
  let (whole, text) := spanDigits text
  match whole with
  | [] => none
  | '0' :: _ :: _ => none
  | _ =>
      let (fraction, text) ← readFraction? text
      let (exponent, text) ← readExponent? text
      some (⟨negative, whole, fraction, exponent⟩, text)

/-- The largest number of 64 bits. -/
def maxWord : Nat := 18446744073709551615

/-- Append digits while the number fits 64 bits; yields how many digits were left out. -/
def appendWhileFits : Nat → List Char → Nat × Nat
  | value, [] => (value, 0)
  | value, c :: rest =>
      let next := 10 * value + (c.toNat - 48)
      if maxWord < next then (value, rest.length + 1) else appendWhileFits next rest

/-- The double nearest to a power of ten that is in range. -/
def powerOfTen (exponent : Nat) : Float :=
  Float.ofScientific 1 false exponent

/-- Scale a double by a power of ten, in steps of at most 308; `none` beyond the doubles. -/
def scaleFuel : Nat → Float → Int → Option Float
  | 0, value, _ => some value
  | fuel + 1, value, exponent =>
      if exponent.natAbs ≤ 308 then
        if 0 ≤ exponent then
          let scaled := value * powerOfTen exponent.natAbs
          if scaled.isInf then none else some scaled
        else some (value / powerOfTen exponent.natAbs)
      else if value == 0 then some value
      else if 0 ≤ exponent then none
      else scaleFuel fuel (value / powerOfTen 308) (exponent + 308)

/-- The significand and the exponent of ten of a number, without the written exponent.  Digits that
no longer fit the significand count as zeros before the point and are dropped after it. -/
def significand (number : NumberText) : Nat × Int :=
  let (value, skipped) := appendWhileFits 0 number.whole
  let (value, taken) :=
    match number.fraction with
    | none => (value, 0)
    | some digits =>
        let (value, dropped) := appendWhileFits value digits
        (value, digits.length - dropped)
  (value, (skipped : Int) - taken)

/-- The greatest exponent that is read as a number. -/
def maxExponent : Nat := 2147483647

/-- The double of a written number, unless it lies beyond the doubles. -/
def NumberText.toDouble? (number : NumberText) : Option Float :=
  let (value, exponent) := significand number
  let signed (value : Float) : Float := if number.negative then -value else value
  match number.exponent with
  | none => (scaleFuel 10 value.toUInt64.toFloat exponent).map signed
  | some (negative, digits) =>
      let written := digits.foldl (fun total c => 10 * total + (c.toNat - 48)) 0
      if maxExponent < written then
        if value != 0 && !negative then none else some (signed 0)
      else
        let written : Int := if negative then -written else written
        (scaleFuel 10 value.toUInt64.toFloat (exponent + written)).map signed

/-- The value of a written number. -/
def NumberText.toJson (number : NumberText) : Json :=
  let whole := number.whole.foldl (fun total c => 10 * total + (c.toNat - 48)) 0
  let fits := if number.negative then 0 < whole ∧ whole ≤ 9223372036854775808 else whole ≤ maxWord
  if number.fraction.isNone ∧ number.exponent.isNone ∧ fits then
    .integer (if number.negative then -whole else whole)
  else
    match number.toDouble? with
    | some value => .double value
    | none => .unreadable

end LogQuery.Json
