import SExpr.Binary64.Basic
import SExpr.Numeral.Decimal

/-!
# The nearest double

A numeral of any length stands for an exact quotient, and what is read is the double nearest to
it; of two equally near ones, the one whose last bit is zero.  A quotient too large for any
finite double reads as infinity.

The quotient is first counted in units of `2 ^ -1074`.  A number of at most 53 bits of units is a
magnitude as it stands; a longer one is cut to 53 bits, and every further bit moves the exponent
field up by one.  Rounding up to the next power of two carries into the exponent field, which is
just what the encoding wants, so no case is made for it.
-/

namespace SExpr.Binary64

/-- The whole number nearest to a quotient; of two equally near ones, the even one. -/
def roundHalfEven (numerator denominator : Nat) : Nat :=
  let quotient := numerator / denominator
  let remainder := numerator % denominator
  if 2 * remainder < denominator ∨ (2 * remainder = denominator ∧ quotient % 2 = 0) then quotient
  else quotient + 1

/-- The magnitude nearest to a quotient, infinity included. -/
def nearestMagnitude (numerator denominator : Nat) : Nat :=
  let scaled := numerator * 2 ^ unitPlaces
  let dropped := (scaled / denominator).log2 - fractionBits
  min infinityMagnitude
    (dropped * 2 ^ fractionBits + roundHalfEven scaled (denominator * 2 ^ dropped))

/-- The double nearest to a quotient of natural numbers. -/
def nearest (numerator denominator : Nat) : Binary64 where
  negative := false
  magnitude := nearestMagnitude numerator denominator
  magnitude_lt := Nat.lt_of_le_of_lt (Nat.min_le_left _ _) infinityMagnitude_lt

/-- The double nearest to a natural number. -/
def ofNat (n : Nat) : Binary64 := nearest n 1

/-- The double that a decimal numeral with a point stands for, from the digits on either side. -/
def ofDecimal (whole fraction : List Char) : Binary64 :=
  nearest (Numeral.decimalValue (whole ++ fraction)) (10 ^ fraction.length)

end SExpr.Binary64
