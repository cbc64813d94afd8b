/-!
# The shortest decimal of a double

A double stands for every real number that rounds to it.  Its shortest decimal is the one with the
fewest digits among those numbers, and of two with equally many digits the nearer one.  The search
is in exact arithmetic: for each number of digits the two neighbours of the double on that decimal
grid are tried.
-/

namespace LogQuery.Decimal

/-- The number `digits · 10 ^ exponent`. -/
structure Scaled where
  digits : Nat
  exponent : Int
  deriving Repr, DecidableEq

/-- A positive double as a fraction, with the bounds of what rounds to it over the same
denominator. -/
structure Neighbourhood where
  low : Nat
  value : Nat
  high : Nat
  denominator : Nat
  /-- Whether the bounds themselves round to the double. -/
  closed : Bool
  deriving Repr, DecidableEq

namespace Neighbourhood

/-- The neighbourhood of a double from its biased exponent and its fraction bits. -/
def ofParts (biased fraction : Nat) : Neighbourhood :=
  let mantissa := if biased = 0 then fraction else fraction + Nat.pow 2 52
  let power : Int := (if biased = 0 then 1 else biased : Nat) - 1077
  let below := if fraction = 0 ∧ 1 < biased then 1 else 2
  let scale := Nat.pow 2 power.toNat
  { low := (4 * mantissa - below) * scale
    value := 4 * mantissa * scale
    high := (4 * mantissa + 2) * scale
    denominator := Nat.pow 2 (-power).toNat
    closed := mantissa % 2 = 0 }

/-- Whether `digits · 10 ^ exponent` rounds to the double. -/
def contains (near : Neighbourhood) (decimal : Scaled) : Bool :=
  let point := decimal.digits * Nat.pow 10 decimal.exponent.toNat * near.denominator
  let scale := Nat.pow 10 (-decimal.exponent).toNat
  if near.closed then near.low * scale ≤ point && point ≤ near.high * scale
  else near.low * scale < point && point < near.high * scale

/-- Twice the distance between the double and a decimal, over a common denominator that depends on
the exponent alone. -/
def distance (near : Neighbourhood) (decimal : Scaled) : Nat :=
  let point := decimal.digits * Nat.pow 10 decimal.exponent.toNat * near.denominator
  let value := near.value * Nat.pow 10 (-decimal.exponent).toNat
  (point - value) + (value - point)

/-- How many times a fraction below one has to be multiplied by ten to reach one. -/
def leadingZeros : Nat → Nat → Nat → Nat
  | 0, _, _ => 0
  | fuel + 1, numerator, denominator =>
      if denominator ≤ numerator then 0 else 1 + leadingZeros fuel (10 * numerator) denominator

/-- The exponent of the first digit of the double. -/
def magnitude (near : Neighbourhood) : Int :=
  let whole := near.value / near.denominator
  if whole = 0 then -(leadingZeros 400 near.value near.denominator)
  else (Nat.toDigits 10 whole).length - 1

/-- The better of the two neighbours with so many digits, if one of them rounds to the double. -/
def atPrecision? (near : Neighbourhood) (precision : Nat) : Option Scaled :=
  let exponent := near.magnitude - precision + 1
  let floor :=
    near.value * Nat.pow 10 (-exponent).toNat / (near.denominator * Nat.pow 10 exponent.toNat)
  let lower : Scaled := ⟨floor, exponent⟩
  let upper : Scaled := ⟨floor + 1, exponent⟩
  match near.contains lower, near.contains upper with
  | true, true =>
      if near.distance lower < near.distance upper then some lower
      else if near.distance upper < near.distance lower then some upper
      else if floor % 2 = 0 then some lower else some upper
  | true, false => some lower
  | false, true => some upper
  | false, false => none

/-- The first precision from `precision` on at which a neighbour rounds to the double. -/
def searchFrom (near : Neighbourhood) : Nat → Nat → Scaled
  | 0, precision => ⟨near.value, -precision⟩
  | count + 1, precision =>
      match near.atPrecision? precision with
      | some decimal => decimal
      | none => searchFrom near count (precision + 1)

end Neighbourhood

/-- The digits of a decimal as text, without zeros at the end, and the exponent of the first one. -/
def Scaled.scientific (decimal : Scaled) : List Char × Int :=
  let digits := Nat.toDigits 10 decimal.digits
  let kept := (digits.reverse.dropWhile (· == '0')).reverse
  (if kept.isEmpty then ['0'] else kept, decimal.exponent + digits.length - 1)

/-- The shortest decimal of a positive double given by its bits. -/
def shortestOfBits (bits : Nat) : Scaled :=
  let near := Neighbourhood.ofParts (bits / Nat.pow 2 52 % Nat.pow 2 11) (bits % Nat.pow 2 52)
  near.searchFrom 17 1

end LogQuery.Decimal
