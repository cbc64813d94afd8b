import LogQuery.Decimal.Shortest

/-!
# Writing doubles

A style says which magnitudes are written positionally and whether a whole number keeps a point.
-/

namespace LogQuery.Decimal

/-- How a double is written. -/
structure Style where
  /-- The least exponent of the first digit that is written positionally; `none` for all. -/
  leastPositional : Option Int
  /-- The greatest exponent of the first digit that is written positionally; `none` for all. -/
  greatestPositional : Option Int
  /-- Whether a whole number is written with a zero after a point. -/
  keepsPoint : Bool
  deriving Repr, DecidableEq

namespace Style

/-- A number with its digits in place. -/
def positional (style : Style) (digits : List Char) (exponent : Int) : List Char :=
  if exponent < 0 then
    '0' :: '.' :: (List.replicate (-exponent - 1).toNat '0' ++ digits)
  else
    let whole := exponent.toNat + 1
    if digits.length ≤ whole then
      digits ++ List.replicate (whole - digits.length) '0'
        ++ (if style.keepsPoint then ['.', '0'] else [])
    else digits.take whole ++ '.' :: digits.drop whole

/-- A number with an exponent, whose sign is always written. -/
def exponential (digits : List Char) (exponent : Int) : List Char :=
  let mantissa := match digits with
    | [digit] => [digit]
    | first :: rest => first :: '.' :: rest
    | [] => []
  mantissa ++ 'e' :: (if exponent < 0 then '-' else '+') :: (toString exponent.natAbs).toList

/-- A positive number from its digits and the exponent of the first one. -/
def unsigned (style : Style) (digits : List Char) (exponent : Int) : List Char :=
  let tooSmall := style.leastPositional.any (exponent < ·)
  let tooLarge := style.greatestPositional.any (· < exponent)
  if tooSmall || tooLarge then exponential digits exponent
  else style.positional digits exponent

/-- The text of a finite or infinite double. -/
def write (style : Style) (value : Float) : String :=
  if value.isNaN then "NaN"
  else
    let bits := value.toBits.toNat
    let magnitude := bits % Nat.pow 2 63
    let sign := if Nat.pow 2 63 ≤ bits then ['-'] else []
    let digits :=
      if value.isInf then ['i', 'n', 'f']
      else if magnitude = 0 then style.positional ['0'] 0
      else
        let (digits, exponent) := (shortestOfBits magnitude).scientific
        style.unsigned digits exponent
    String.ofList (sign ++ digits)

end Style

end LogQuery.Decimal
