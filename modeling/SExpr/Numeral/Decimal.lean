import SExpr.Numeral.Positional

/-!
# Long decimal numerals

Reading or writing a numeral digit by digit takes time quadratic in its length.  Here a long
numeral is cut in two about equal parts, and only short pieces are handled digit by digit.
Reading cuts the text in the middle; writing divides by a power of ten whose size is estimated
from the number's length in binary.

The recursion is on a number of cuts that is never used up.  Even if it were, the rest would be
handled digit by digit, so the result is right whatever the number of cuts.

* `decimalValue_eq_value` — cutting does not change what is read.
* `ten_pow_splitWidth_le` — the estimate is not too large: the upper part of a long number is not
  zero, so no zeros are written in front of it.
-/

namespace SExpr.Numeral

/-- The longest numeral, in digits, that is read in one piece. -/
def pieceWidth : Nat := 640

/-! ## Reading -/

/-- The number that a run of decimal digits stands for, found with so many cuts one inside the
other at most. -/
def valueByHalves : (cuts : Nat) → List Char → Nat
  | 0, digits => value 10 digits
  | cuts + 1, digits =>
    if digits.length ≤ pieceWidth then value 10 digits
    else
      let low := digits.drop (digits.length / 2)
      valueByHalves cuts (digits.take (digits.length / 2)) * 10 ^ low.length +
        valueByHalves cuts low

theorem valueByHalves_eq_value (cuts : Nat) :
    ∀ digits : List Char, valueByHalves cuts digits = value 10 digits := by
  induction cuts with
  | zero => exact fun _ => rfl
  | succ cuts ih =>
    intro digits
    simp only [valueByHalves]
    split
    · rfl
    · rw [ih, ih, ← value_append, List.take_append_drop]

/-- The number that a run of decimal digits stands for. -/
def decimalValue (digits : List Char) : Nat := valueByHalves digits.length digits

theorem decimalValue_eq_value (digits : List Char) : decimalValue digits = value 10 digits :=
  valueByHalves_eq_value _ digits

/-! ## Writing -/

/-- The longest number, in binary digits, that is written in one piece. -/
def pieceBits : Nat := 2048

/-- How many digits of a long number go into its lower part: about half of them, since three
binary digits in twenty make half a decimal one. -/
def splitWidth (n : Nat) : Nat := (n.log2 + 1) * 3 / 20

theorem ten_pow_splitWidth_le {n : Nat} (long : 2 ≤ n.log2) : 10 ^ splitWidth n ≤ n := by
  have positive : n ≠ 0 := by
    rintro rfl
    simp at long
  calc 10 ^ splitWidth n
      ≤ 16 ^ splitWidth n := Nat.pow_le_pow_left (by omega) _
    _ = 2 ^ (4 * splitWidth n) := by rw [show (16 : Nat) = 2 ^ 4 from rfl, ← Nat.pow_mul]
    _ ≤ 2 ^ n.log2 := Nat.pow_le_pow_right (by omega) (by simp only [splitWidth]; omega)
    _ ≤ n := Nat.log2_self_le positive

/-- A run of digits brought to a width by zeros in front. -/
def padded (width : Nat) (digits : List Char) : List Char :=
  List.replicate (width - digits.length) '0' ++ digits

/-- The decimal digits of a number, found with so many cuts one inside the other at most. -/
def digitsByHalves : (cuts : Nat) → Nat → List Char
  | 0, n => Nat.toDigits 10 n
  | cuts + 1, n =>
    if n.log2 < pieceBits then Nat.toDigits 10 n
    else
      digitsByHalves cuts (n / 10 ^ splitWidth n) ++
        padded (splitWidth n) (digitsByHalves cuts (n % 10 ^ splitWidth n))

/-- The decimal digits of a number, without leading zeros; zero has one digit. -/
def decimalDigits (n : Nat) : List Char := digitsByHalves n.log2 n

/-- The decimal spelling of an integer, with a minus sign when it is negative. -/
def decimalText : Int → String
  | .ofNat n => String.ofList (decimalDigits n)
  | .negSucc n => String.ofList ('-' :: decimalDigits (n + 1))

end SExpr.Numeral
