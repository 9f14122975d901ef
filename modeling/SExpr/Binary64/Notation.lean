import SExpr.Binary64.Spelling

/-!
# Decimals in other notations

In an expression a double is spelled with every digit in its place.  The decimal may be at hand in
another notation, the one of messages for instance, where a point stands somewhere among the digits
and an exponent may follow.  To get the spelling from that, the numeral is taken for the decimal that
it stands for, and that decimal is written with every digit in its place.

* `Decimal.ofText?` — the decimal that a numeral without a sign stands for.
* `Decimal.fixed` — a decimal with every digit in its place.
* `Decimal.withPoint` — the same with a point in any case.
* `Decimal.inPlaces?` — the spelling from a numeral in another notation.
-/

namespace SExpr.Decimal

/-- Whether an exponent is negative, and its digits. -/
def signAndDigits : List Char → Bool × List Char
  | '-' :: digits => (true, digits)
  | '+' :: digits => (false, digits)
  | digits => (false, digits)

/-- The exponent that stands behind the digits of a numeral; where nothing stands there, zero. -/
def exponent? : List Char → Option Int
  | [] => some 0
  | mark :: behind =>
    let (negative, digits) := signAndDigits behind
    if (mark = 'e' ∨ mark = 'E') ∧ digits ≠ [] ∧ digits.all Char.isDigit then
      let value : Int := Numeral.decimalValue digits
      some (if negative then -value else value)
    else none

/-- The digits behind a point, if one is ahead, and what stands behind them. -/
def fractionAndRest : List Char → List Char × List Char
  | '.' :: more => (more.takeWhile Char.isDigit, more.dropWhile Char.isDigit)
  | behind => ([], behind)

/-- The decimal that a numeral without a sign stands for. -/
def ofText? (text : List Char) : Option Decimal :=
  let whole := text.takeWhile Char.isDigit
  let (fraction, behind) := fractionAndRest (text.dropWhile Char.isDigit)
  if whole ++ fraction = [] then none
  else (exponent? behind).map fun exponent =>
    ⟨Numeral.decimalValue (whole ++ fraction), exponent - fraction.length⟩

/-- A decimal with every digit in its place, and with no point if nothing stands behind it. -/
def fixed (decimal : Decimal) : List Char :=
  let digits := Numeral.decimalDigits decimal.digits
  let point : Int := digits.length + decimal.exponent
  if decimal.digits = 0 ∧ 0 < decimal.exponent then ['0']
  else if point < 0 then '0' :: '.' :: (List.replicate (-point).toNat '0' ++ digits)
  else if digits.length < point then
    digits ++ List.replicate (point - digits.length).toNat '0'
  else
    let whole := digits.take point.toNat
    let fraction := digits.drop point.toNat
    (if whole = [] then ['0'] else whole) ++ (if fraction = [] then [] else '.' :: fraction)

/-- A numeral with a point and a zero behind it, unless it has a point. -/
def withPoint (text : List Char) : List Char := if '.' ∈ text then text else text ++ ['.', '0']

/-- A numeral in another notation, with every digit in its place and a point among them. -/
def inPlaces? (text : List Char) : Option (List Char) :=
  (ofText? text).map fun decimal => withPoint decimal.fixed

end SExpr.Decimal
