import SExpr.Reader.Tagged
import SExpr.Binary64.Rounding

/-!
# Readers of numbers

A run of digits starts an integer, a ratio, a float and a complex number alike; each of these
readers starts over from the first digit and knows nothing of the others.
-/

namespace SExpr.Reader

variable {L : Type} [Log L]

/-- Read a natural number. -/
def natural : Reader L Nat := do
  let numeral ← digits
  return Numeral.decimalValue numeral

/-- Read an integer without a tag. -/
def plainInteger : Reader L Datum := do
  let value ← natural
  return .integer value

/-- Read an integer with or without a tag. -/
def integer : Reader L Datum := firstOf [plainInteger, radixInteger]

/-- Read a number with a decimal point and digits on either side. -/
def decimal : Reader L Binary64 := do
  let whole ← digits
  token "."
  let fraction ← digits
  return .ofDecimal whole fraction

/-- Read a double-precision number. -/
def float : Reader L Datum := do
  let value ← decimal
  return .float value

/-- The denominator that a numeral stands for, if it is not zero. -/
def denominator? (numeral : List Char) : Option { n : Int // n ≠ 0 } :=
  let value : Int := Numeral.decimalValue numeral
  if nonzero : value ≠ 0 then some ⟨value, nonzero⟩ else none

/-- Read a ratio. -/
def ratio : Reader L Datum := do
  let numerator ← natural
  token "/"
  let denominator ← refine digits denominator? "non-zero denominator"
  return .ratio ⟨numerator, denominator, denominator.property⟩

/-! ## Complex numbers -/

/-- A part of a complex number as it is written. -/
inductive Part where
  /-- Digits alone. -/
  | whole (value : Nat)
  /-- Digits with a point among them. -/
  | decimal (value : Binary64)

namespace Part

/-- The double that a part stands for. -/
def toBinary64 : Part → Binary64
  | .whole value => .ofNat value
  | .decimal value => value

/-- The number that a part is by itself. -/
def toDatum : Part → Datum
  | .whole value => .integer value
  | .decimal value => .float value

end Part

/-- Read a part of a complex number. -/
def part : Reader L Part := firstOf [Part.decimal <$> decimal, Part.whole <$> natural]

/-- Read a complex number. -/
def complex : Reader L Datum := do
  let real ← part
  token "+"
  let imaginary ← part
  token "i"
  return .complex real.toBinary64 imaginary.toBinary64

end SExpr.Reader
