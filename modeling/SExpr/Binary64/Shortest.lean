import SExpr.Binary64.Rounding

/-!
# The shortest decimal of a double

Many decimals read back as one double.  The one to write is taken from the coarsest grid of
multiples of a power of ten on which any of them lies: that makes it as short as can be.  On a
grid only the two multiples on either side of the exact value can be nearest to it, so these two
are tried; if both read back the nearer is taken, and of two equally near ones the even one.

The powers of ten tried go from the largest below the largest double down to the largest below
the distance between the smallest doubles, on whose grid every double has a multiple.  Signs play
no part here: all is said of magnitudes.
-/

namespace SExpr

/-- A decimal number: `digits` times the power of ten of the given exponent. -/
structure Decimal where
  digits : Nat
  exponent : Int
  deriving DecidableEq, Repr

namespace Decimal

/-- The magnitude of the double nearest to a decimal. -/
def nearestMagnitude (decimal : Decimal) : Nat :=
  Binary64.nearestMagnitude (decimal.digits * 10 ^ decimal.exponent.toNat)
    (10 ^ (-decimal.exponent).toNat)

end Decimal

namespace Binary64

/-- A decimal on the grid of multiples of one power of ten that reads back as a magnitude, if
there is one.  A grid more than ten times as coarse as the number itself is passed over. -/
def decimalOnGrid (magnitude : Nat) (exponent : Int) : Option Decimal :=
  let numerator := units magnitude * 10 ^ (-exponent).toNat
  let denominator := 2 ^ unitPlaces * 10 ^ exponent.toNat
  if numerator * 10 < denominator then none
  else
    let below : Decimal := ⟨numerator / denominator, exponent⟩
    let above : Decimal := ⟨numerator / denominator + 1, exponent⟩
    let downwards := roundHalfEven numerator denominator = numerator / denominator
    let nearer := if downwards then below else above
    let farther := if downwards then above else below
    if nearer.nearestMagnitude = magnitude then some nearer
    else if farther.nearestMagnitude = magnitude then some farther
    else none

/-- The exponent of the largest power of ten below the largest double. -/
def coarsestExponent : Int := 308

/-- How many powers of ten there are from the coarsest to the finest that is ever needed. -/
def gridCount : Nat := 633

/-- The decimal that is exactly the number of a finite magnitude. -/
def exactDecimal (magnitude : Nat) : Decimal :=
  ⟨units magnitude * 5 ^ unitPlaces, -unitPlaces⟩

/-- The shortest decimal that reads back as a finite magnitude. -/
def shortest (magnitude : Nat) : Decimal :=
  if magnitude = 0 then ⟨0, 0⟩
  else
    ((List.range gridCount).findSome? fun (k : Nat) =>
      decimalOnGrid magnitude (coarsestExponent - k)).getD (exactDecimal magnitude)

end Binary64

end SExpr
