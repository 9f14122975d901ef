import SExpr.Binary64.Shortest

/-!
# Spelling a double

A double is spelled by its shortest decimal.  In an expression every digit stands in its place,
with at least one digit on either side of the point, since the reader knows no exponents.  In a
message a number far from one is spelled with an exponent, so that the line stays short, and
what is not finite has a name.
-/

namespace SExpr

namespace Decimal

/-- The digits of a decimal in their places around a point. -/
def positional (decimal : Decimal) : List Char :=
  let whole := decimal.digits * 10 ^ decimal.exponent.toNat
  match (-decimal.exponent).toNat with
  | 0 => Numeral.decimalDigits whole ++ ['.', '0']
  | places@(_ + 1) =>
    Numeral.decimalDigits (whole / 10 ^ places) ++
      '.' :: Numeral.padded places (Numeral.decimalDigits (whole % 10 ^ places))

/-- The exponent of the power of ten that the first digit of a decimal counts. -/
def firstPlace (decimal : Decimal) : Int :=
  decimal.exponent + ((Numeral.decimalDigits decimal.digits).length : Int) - 1

/-- The digits of a decimal with a point after the first of them, unless it stands alone, and an
exponent of at least two digits. -/
def scientific (decimal : Decimal) : List Char :=
  let place := decimal.firstPlace
  let mantissa := match Numeral.decimalDigits decimal.digits with
    | first :: second :: rest => first :: '.' :: second :: rest
    | alone => alone
  mantissa ++ 'e' :: (if place < 0 then '-' else '+') ::
    Numeral.padded 2 (Numeral.decimalDigits place.natAbs)

/-- How a decimal is spelled in a message: positionally if its first digit counts a power of ten
from `10 ^ -4` to `10 ^ 15`. -/
def general (decimal : Decimal) : List Char :=
  if -4 ≤ decimal.firstPlace ∧ decimal.firstPlace ≤ 15 then decimal.positional
  else decimal.scientific

end Decimal

namespace Binary64

/-- The spelling of the absolute value of a finite double in an expression. -/
def positional (x : Binary64) : List Char := (shortest x.magnitude).positional

/-- The spelling of a double in a message. -/
def messageText (x : Binary64) : String :=
  if x.isNaN then "nan"
  else
    let absolute := if x.isInfinite then ['i', 'n', 'f'] else (shortest x.magnitude).general
    String.ofList (if x.negative then '-' :: absolute else absolute)

end Binary64

end SExpr
