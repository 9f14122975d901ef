import SExpr.Numeral.Positional

/-!
# Double-precision numbers

A double-precision number is a sign and a *magnitude*: the 63 bits that remain of its 64-bit
encoding, read as a number.  Magnitudes are in the order of the absolute values they encode, the
one above the largest finite magnitude is infinity, and all above that are not numbers; so most
questions about a double are comparisons of magnitudes.

* `units` — the exact absolute value of a finite double, counted in `2 ^ -1074`, the distance
  between the smallest doubles.
* `same` — equality of doubles as numbers: the two zeros are equal, and what is not a number
  equals nothing.
-/

namespace SExpr

/-- The number of bits of an encoding besides the sign. -/
def Binary64.magnitudeBits : Nat := 63

/-- A double-precision number, by its sign and the rest of its encoding. -/
structure Binary64 where
  /-- Whether the sign bit is set. -/
  negative : Bool
  /-- The exponent and fraction fields, read as one number. -/
  magnitude : Nat
  magnitude_lt : magnitude < 2 ^ Binary64.magnitudeBits
  deriving DecidableEq, Repr

namespace Binary64

/-- The number of bits of the fraction field. -/
def fractionBits : Nat := 52

/-- The magnitude of the infinities: all bits of the exponent field set, and no other. -/
def infinityMagnitude : Nat := 0x7FF * 2 ^ fractionBits

theorem infinityMagnitude_lt : infinityMagnitude < 2 ^ magnitudeBits := by decide

/-- The infinity of the sign bit `negative`. -/
def infinity (negative : Bool) : Binary64 := ⟨negative, infinityMagnitude, infinityMagnitude_lt⟩

/-- Whether a double is a number other than the infinities. -/
def isFinite (x : Binary64) : Bool := decide (x.magnitude < infinityMagnitude)

/-- Whether a double is an infinity. -/
def isInfinite (x : Binary64) : Bool := x.magnitude == infinityMagnitude

/-- Whether a double is not a number at all. -/
def isNaN (x : Binary64) : Bool := decide (infinityMagnitude < x.magnitude)

/-- The smallest doubles are this many binary places behind the point apart. -/
def unitPlaces : Nat := 1074

/-- The absolute value that a finite magnitude encodes, in units of `2 ^ -1074`.  Exponent field
zero means the fraction itself; any other field puts a leading bit before the fraction. -/
def units (magnitude : Nat) : Nat :=
  let exponent := magnitude / 2 ^ fractionBits
  let fraction := magnitude % 2 ^ fractionBits
  if exponent = 0 then fraction else (2 ^ fractionBits + fraction) * 2 ^ (exponent - 1)

/-- Equality of doubles as numbers. -/
def same (x y : Binary64) : Bool :=
  !x.isNaN && !y.isNaN && (x == y || (x.magnitude == 0 && y.magnitude == 0))

/-- The double of a 64-bit encoding. -/
def ofBits (bits : UInt64) : Binary64 where
  negative := decide (2 ^ magnitudeBits ≤ bits.toNat)
  magnitude := bits.toNat % 2 ^ magnitudeBits
  magnitude_lt := Nat.mod_lt _ (by decide)

/-- The 64-bit encoding of a double. -/
def toBits (x : Binary64) : UInt64 :=
  UInt64.ofNat ((if x.negative then 2 ^ magnitudeBits else 0) + x.magnitude)

end Binary64

end SExpr
