import Mathlib.Data.Nat.Digits.Defs
import SExpr.Proofs.Fallible
import SExpr.Proofs.Numeral

/-!
# Numerals of any length

A conversion between numerals and numbers handles only short ones in one piece.  Longer ones are
cut: numerals in the middle, numbers at a power of ten that is estimated from their length in
binary.  The two cuts have nothing to do with each other, and yet the conversions are inverse to
each other, because neither the one nor the other changes the result.

Writing is given here as a recursion that might go on for ever, or break down because a piece is
still too long, and that it does neither is part of what is proved.  The reason is the estimate: a
power of ten that is more than one and at most the number leaves two smaller parts, shorter in
binary, so there are no more levels than binary digits.

* `Conversion.digitsWithin` — the digits of a number, by cutting it until the pieces are short
  enough, unless that takes too many levels.
* `Conversion.digitsWithin_eq` — it does not, and they are the ones that are written everywhere else.
* `Numeral.value_eq_ofDigits` — a numeral stands for the sum of its digits, each counted by the power
  of the base that belongs to its place.
* `Conversion.decimal_digits` — the two conversions and how they undo each other.
-/

namespace SExpr

namespace Conversion

/-- The smallest number that is too long for one piece.  Nothing is gained by computing it. -/
@[irreducible] def smallestLong : Nat := 10 ^ Numeral.pieceWidth

/-- The digits of a number that is written in one piece.  As with numerals that are read, no more
than 640 digits are counted on. -/
def digitsInOnePiece (n : Nat) : Except Breakdown (List Char) :=
  if smallestLong ≤ n then .error (.tooLong (Nat.toDigits 10 n).length)
  else .ok (Nat.toDigits 10 n)

/-- The digits of a number, which is cut until its pieces are short enough; none if cutting takes
more levels than that. -/
def digitsWithin : (levels : Nat) → Nat → ExceptT Breakdown Option (List Char)
  | 0, _ => ExceptT.mk none
  | levels + 1, n =>
    if n < smallestLong then ExceptT.mk (some (digitsInOnePiece n))
    else do
      let high ← digitsWithin levels (n / 10 ^ Numeral.splitWidth n)
      let low ← digitsWithin levels (n % 10 ^ Numeral.splitWidth n)
      return high ++ Numeral.padded (Numeral.splitWidth n) low

end Conversion

namespace Numeral

/-! ## Places -/

lemma value_eq_ofDigits (base : Nat) (digits : List Char) :
    value base digits = Nat.ofDigits base (digits.map digitValue).reverse := by
  induction digits with
  | nil => rfl
  | cons c rest ih =>
      rw [value_cons, ih, List.map_cons, Nat.ofDigits_reverse_cons, List.length_map, Nat.add_comm,
        Nat.mul_comm]

end Numeral

namespace Conversion

open Numeral

/-! ## Writing ends -/

lemma pieceWidth_le_log2 {n : Nat} (long : ¬ n < smallestLong) : pieceWidth ≤ n.log2 := by
  have large : 2 ^ pieceWidth ≤ smallestLong := by
    unfold smallestLong
    exact Nat.pow_le_pow_left (by omega) pieceWidth
  have power : 0 < 2 ^ pieceWidth := Nat.pow_pos (by omega)
  exact (Nat.le_log2 (by omega)).mpr (by omega)

/-- A number that is cut has a lower part of some width, and an upper part that is not zero. -/
lemma splitWidth_bounds {n : Nat} (long : ¬ n < smallestLong) :
    0 < splitWidth n ∧ 10 ^ splitWidth n ≤ n := by
  have bits := pieceWidth_le_log2 long
  simp only [pieceWidth] at bits
  exact ⟨splitWidth_pos (by omega), ten_pow_splitWidth_le (by omega)⟩

lemma log2_lt_of_lt {n bits : Nat} (some : 0 < bits) (small : n < 2 ^ bits) : n.log2 < bits := by
  by_cases zero : n = 0
  · rw [zero, Nat.log2_zero]
    exact some
  · exact (Nat.log2_lt zero).mpr small

/-- Both parts of a number that is cut are shorter in binary: the upper part because the lower one has
digits, and the lower part because it has about half of all digits. -/
lemma log2_parts_lt {n : Nat} (long : ¬ n < smallestLong) :
    (n / 10 ^ splitWidth n).log2 < n.log2 ∧ (n % 10 ^ splitWidth n).log2 < n.log2 := by
  have bits := pieceWidth_le_log2 long
  have some : 0 < n.log2 := Nat.lt_of_lt_of_le (by decide) bits
  have power : 0 < 10 ^ splitWidth n := Nat.pow_pos (by omega)
  have double : 2 ≤ 10 ^ splitWidth n :=
    Nat.le_trans (by omega) (Nat.le_self_pow (splitWidth_bounds long).1.ne' 10)
  constructor
  · refine log2_lt_of_lt some ((Nat.div_lt_iff_lt_mul power).mpr ?_)
    calc n < 2 ^ (n.log2 + 1) := Nat.lt_log2_self
      _ = 2 ^ n.log2 * 2 := by rw [Nat.pow_succ]
      _ ≤ 2 ^ n.log2 * 10 ^ splitWidth n := Nat.mul_le_mul_left _ double
  · refine log2_lt_of_lt some ?_
    calc n % 10 ^ splitWidth n
        < 10 ^ splitWidth n := Nat.mod_lt n power
      _ ≤ 16 ^ splitWidth n := Nat.pow_le_pow_left (by omega) _
      _ = 2 ^ (4 * splitWidth n) := by rw [Nat.pow_mul]
      _ ≤ 2 ^ n.log2 := Nat.pow_le_pow_right (by omega) (by simp only [splitWidth]; omega)

/-- More levels than a number has binary digits are never needed. -/
lemma digitsWithin_eq (levels : Nat) : ∀ n : Nat, n.log2 < levels →
    digitsWithin levels n = ExceptT.mk (some (.ok (decimalDigits n))) := by
  induction levels with
  | zero => exact fun _ enough => absurd enough (Nat.not_lt_zero _)
  | succ levels ih =>
      intro n enough
      rw [digitsWithin, decimalDigits_eq_toDigits]
      split
      · next short => rw [digitsInOnePiece, if_neg (Nat.not_le.mpr short)]
      · next long =>
          obtain ⟨positive, most⟩ := splitWidth_bounds long
          obtain ⟨upper, lower⟩ := log2_parts_lt long
          rw [ih _ (by omega), ih _ (by omega), decimalDigits_eq_toDigits,
            decimalDigits_eq_toDigits, ← toDigits_div_append_mod positive most]
          rfl

/-! ## Reading and writing -/

/-- A run of digits of any length is converted to the number that it stands for, and the digits of
any number are found, by cutting it so often; they stand for the number, and no zero is in front that
it could do without.
So a number is read back from its digits, digits are written again but for the zeros in front, and
it makes no difference where a run is cut. -/
theorem decimal_digits :
    (∀ text : List Char, IsRun Char.isDigit text → decimal text = .ok (decimalValue text) ∧
      decimalValue text = Nat.ofDigits 10 (text.map digitValue).reverse) ∧
    (∀ n : Nat, (∀ levels : Nat, n.log2 < levels →
        (digitsWithin levels n).run = some (.ok (decimalDigits n))) ∧
      IsRun Char.isDigit (decimalDigits n) ∧
      Nat.ofDigits 10 ((decimalDigits n).map digitValue).reverse = n ∧
      ((decimalDigits n).head? = some '0' → decimalDigits n = ['0'])) ∧
    (∀ n : Nat, decimalValue (decimalDigits n) = n) ∧
    (∀ text : List Char, IsRun Char.isDigit text →
      decimalDigits (decimalValue text) = withoutZeros text) ∧
    ∀ high low : List Char,
      decimalValue (high ++ low) = decimalValue high * 10 ^ low.length + decimalValue low := by
  refine ⟨fun text run => ⟨decimal_eq run, ?_⟩,
    fun n => ⟨fun levels enough => ?_, isRun_decimalDigits n, ?_, ?_⟩,
    fun n => ?_, fun text run => ?_, fun high low => ?_⟩
  · rw [decimalValue_eq_value, value_eq_ofDigits]
  · rw [digitsWithin_eq levels n enough]
    rfl
  · rw [← value_eq_ofDigits, value_decimalDigits]
  · exact decimalDigits_eq_zero
  · rw [decimalValue_eq_value, value_decimalDigits]
  · rw [decimalValue_eq_value, decimalDigits_eq_toDigits, toDigits_value run.2]
  · simp only [decimalValue_eq_value, value_append]

/-- Seven and seven hundred zeros behind it, which no conversion takes in one piece: the zero in
front is lost, and all others are written again. -/
theorem decimal_digits_long :
    IsRun Char.isDigit ('0' :: '7' :: List.replicate 700 '0') ∧
      decimalDigits (decimalValue ('0' :: '7' :: List.replicate 700 '0')) =
        '7' :: List.replicate 700 '0' := by
  have front : IsRun Char.isDigit ['0', '7'] := ⟨by simp, by simp⟩
  have zeros : ∀ c ∈ List.replicate 700 '0', c.isDigit = true := isDigit_of_mem_replicate
  have run : IsRun Char.isDigit ('0' :: '7' :: List.replicate 700 '0') := front.append zeros
  obtain ⟨-, -, -, again, -⟩ := decimal_digits
  exact ⟨run, again _ run⟩

end Conversion

end SExpr
