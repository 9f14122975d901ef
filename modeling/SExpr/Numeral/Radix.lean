import SExpr.Numeral.Decimal

/-!
# The four radices

An integer may be written in base two, eight, ten or sixteen; a letter tells which.
-/

namespace SExpr.Numeral

/-- The bases in which an integer may be written. -/
inductive Radix where
  | binary
  | octal
  | decimal
  | hexadecimal
  deriving DecidableEq, Repr

namespace Radix

/-- The radix that a tag letter announces. -/
def ofTag? : Char → Option Radix
  | 'b' => some .binary
  | 'o' => some .octal
  | 'd' => some .decimal
  | 'x' => some .hexadecimal
  | _ => none

/-- The number of digits of the radix. -/
def base : Radix → Nat
  | .binary => 2
  | .octal => 8
  | .decimal => 10
  | .hexadecimal => 16

/-- Whether a character is a digit of the radix; hexadecimal letters have either case. -/
def isDigit : Radix → Char → Bool
  | .binary, c => c == '0' || c == '1'
  | .octal, c => '0' ≤ c && c ≤ '7'
  | .decimal, c => c.isDigit
  | .hexadecimal, c => c.isDigit || ('a' ≤ c && c ≤ 'f') || ('A' ≤ c && c ≤ 'F')

/-- What a reader asks for where it wants a digit of the radix. -/
def digitName : Radix → String
  | .binary => "binary digit"
  | .octal => "octal digit"
  | .decimal => "digit"
  | .hexadecimal => "hexadecimal digit"

/-- The number that a run of digits of the radix stands for. -/
def value : Radix → List Char → Nat
  | .decimal => decimalValue
  | radix => Numeral.value radix.base

theorem value_eq (radix : Radix) (digits : List Char) :
    radix.value digits = Numeral.value radix.base digits := by
  cases radix with
  | decimal => exact decimalValue_eq_value digits
  | _ => rfl

end Radix

end SExpr.Numeral
