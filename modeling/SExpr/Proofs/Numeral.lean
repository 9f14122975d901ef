import SExpr.Proofs.Digits
import SExpr.Proofs.Reader.Runs

/-!
# Numerals read back

A long number is cut in two before its digits are written, and the lower part is brought to its
width by zeros.  Since the width is at least one and the upper part is not zero, this gives the
digits of the number, so the digits that are written are digits, there is at least one, and they
stand for the number.

* `toDigits_div_append_mod` — the digits of a number from those of its two parts.
* `decimalDigits_eq_toDigits` — cutting does not change what is written.
* `length_decimalDigits_le` — a number below a power of ten has no more digits than that; this is
  why padding never cuts anything off.
* `value_decimalDigits`, `decimalDigits_eq_zero` — what is written stands for the number, and no zero
  is in front that it could do without.
-/

namespace SExpr

namespace Numeral

lemma isDigit_of_mem_toDigits {n : Nat} : ∀ c ∈ Nat.toDigits 10 n, c.isDigit = true :=
  fun _ member => Nat.isDigit_of_mem_toDigits (by omega) (by omega) member

/-! ## Padding -/

lemma isDigit_of_mem_replicate {zeros : Nat} : ∀ c ∈ List.replicate zeros '0', c.isDigit = true := by
  intro c member
  rw [List.eq_of_mem_replicate member]
  rfl

lemma isDigit_of_mem_padded {width : Nat} {digits : List Char}
    (all : ∀ c ∈ digits, c.isDigit = true) : ∀ c ∈ padded width digits, c.isDigit = true := by
  intro c member
  rcases List.mem_append.mp member with zero | digit
  · exact isDigit_of_mem_replicate c zero
  · exact all c digit

lemma value_padded (width : Nat) (digits : List Char) :
    value 10 (padded width digits) = value 10 digits :=
  value_replicate_append 10 _ digits

lemma length_padded {width : Nat} {digits : List Char} (fits : digits.length ≤ width) :
    (padded width digits).length = width := by
  rw [padded, List.length_append, List.length_replicate]
  omega

/-! ## The digits of a number -/

/-- The digits of a number are those of its upper part and, brought to their width, those of its
lower part. -/
lemma toDigits_div_append_mod {n width : Nat} (positive : 0 < width) (long : 10 ^ width ≤ n) :
    Nat.toDigits 10 (n / 10 ^ width) ++ padded width (Nat.toDigits 10 (n % 10 ^ width)) =
      Nat.toDigits 10 n := by
  have power : 0 < 10 ^ width := Nat.pow_pos (by omega)
  have upper : 0 < n / 10 ^ width := Nat.div_pos long power
  have fits : (Nat.toDigits 10 (n % 10 ^ width)).length ≤ width :=
    (Nat.length_toDigits_le_iff (by omega) positive).mpr (Nat.mod_lt n power)
  rw [toDigits_append (isDigit_of_mem_padded isDigit_of_mem_toDigits) upper, length_padded fits,
    value_padded, value_toDigits (by omega) (by omega), Nat.mul_comm, Nat.div_add_mod]

lemma splitWidth_pos {n : Nat} (long : 6 ≤ n.log2) : 0 < splitWidth n := by
  simp only [splitWidth]
  omega

/-- However often a number is cut, what is written are its digits. -/
lemma digitsByHalves_eq_toDigits (cuts : Nat) : ∀ n, digitsByHalves cuts n = Nat.toDigits 10 n := by
  induction cuts with
  | zero => exact fun _ => rfl
  | succ cuts ih =>
      intro n
      rw [digitsByHalves]
      split
      · rfl
      · next long =>
          simp only [pieceBits] at long
          have most : 10 ^ splitWidth n ≤ n := ten_pow_splitWidth_le (by omega)
          rw [ih, ih, toDigits_div_append_mod (splitWidth_pos (by omega)) most]

/-- Cutting does not change what is written. -/
lemma decimalDigits_eq_toDigits (n : Nat) : decimalDigits n = Nat.toDigits 10 n :=
  digitsByHalves_eq_toDigits _ n

lemma length_decimalDigits_le {n width : Nat} (positive : 0 < width) (small : n < 10 ^ width) :
    (decimalDigits n).length ≤ width := by
  rw [decimalDigits_eq_toDigits]
  exact (Nat.length_toDigits_le_iff (by omega) positive).mpr small

lemma isRun_decimalDigits (n : Nat) : IsRun Char.isDigit (decimalDigits n) := by
  rw [decimalDigits_eq_toDigits]
  exact ⟨Nat.toDigits_ne_nil, isDigit_of_mem_toDigits⟩

lemma value_decimalDigits (n : Nat) : value 10 (decimalDigits n) = n := by
  rw [decimalDigits_eq_toDigits, value_toDigits (by omega) (by omega)]

/-- Zeros behind the digits of a positive number are the digits of a multiple. -/
lemma decimalDigits_mul_pow {n : Nat} (positive : 0 < n) (zeros : Nat) :
    decimalDigits (n * 10 ^ zeros) = decimalDigits n ++ List.replicate zeros '0' := by
  rw [decimalDigits_eq_toDigits, decimalDigits_eq_toDigits,
    toDigits_append isDigit_of_mem_replicate positive, value_replicate, List.length_replicate,
    Nat.add_zero]

/-- The digits of the number that a run stands for are the run, once they are brought to its
width. -/
lemma padded_decimalDigits_value {text : List Char} (run : IsRun Char.isDigit text) :
    padded text.length (decimalDigits (value 10 text)) = text := by
  obtain ⟨zeros, split⟩ := exists_replicate_withoutZeros run.1
  have length := congrArg List.length split
  rw [List.length_append, List.length_replicate] at length
  rw [decimalDigits_eq_toDigits, toDigits_value run.2, padded, length, Nat.add_sub_cancel, ← split]

/-- Digits that are written have no zero in front, unless they are a zero. -/
lemma decimalDigits_eq_zero {n : Nat} (zero : (decimalDigits n).head? = some '0') :
    decimalDigits n = ['0'] := by
  rw [decimalDigits_eq_toDigits] at zero ⊢
  rcases Nat.eq_zero_or_pos n with rfl | positive
  · exact Nat.toDigits_zero 10
  · exact absurd zero (head?_toDigits_ne (by omega) positive)

end Numeral

end SExpr
