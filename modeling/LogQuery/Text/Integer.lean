/-!
# Integers of a fixed range

Decimal integers as they are written in options: perhaps a sign, then ASCII digits.  A minus sign is
read only where the range has negative numbers.  Reading goes from left to right and stops at the
first digit that leaves the range and at the first character that is no digit.
-/

namespace LogQuery.Text

/-- Why a text is no integer of the range. -/
inductive IntegerError where
  | empty
  | invalidDigit
  | tooLarge
  | tooSmall
  deriving Repr, DecidableEq

/-- The wording of the error. -/
def IntegerError.message : IntegerError → String
  | .empty => "cannot parse integer from empty string"
  | .invalidDigit => "invalid digit found in string"
  | .tooLarge => "number too large to fit in target type"
  | .tooSmall => "number too small to fit in target type"

/-- An inclusive range of integers. -/
structure IntegerRange where
  low : Int
  high : Int
  deriving Repr, DecidableEq

/-- The range of signed numbers of 64 bits. -/
def signed64 : IntegerRange := ⟨-9223372036854775808, 9223372036854775807⟩

/-- The range of unsigned numbers of 64 bits. -/
def unsigned64 : IntegerRange := ⟨0, 18446744073709551615⟩

/-- Append digits to a number, away from zero. -/
def readDigits (range : IntegerRange) (negative : Bool) :
    Int → List Char → Except IntegerError Int
  | value, [] => .ok value
  | value, c :: rest =>
      if c.isDigit then
        let digit : Int := (c.toNat - 48 : Nat)
        let next := if negative then 10 * value - digit else 10 * value + digit
        if range.high < next then .error .tooLarge
        else if next < range.low then .error .tooSmall
        else readDigits range negative next rest
      else .error .invalidDigit

/-- Read an integer of a range. -/
def readInteger (range : IntegerRange) (text : String) : Except IntegerError Int :=
  match text.toList with
  | [] => .error .empty
  | [sign] =>
      if sign == '+' || sign == '-' then .error .invalidDigit
      else readDigits range false 0 [sign]
  | '+' :: digits => readDigits range false 0 digits
  | '-' :: digits =>
      if range.low < 0 then readDigits range true 0 digits else .error .invalidDigit
  | digits => readDigits range false 0 digits

end LogQuery.Text
