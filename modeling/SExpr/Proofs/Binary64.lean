import SExpr.Binary64.Spelling
import SExpr.Proofs.Shortest

/-!
# Doubles read back

A decimal is written as two runs of digits around a point, which stand for the number that it is.  So
the decimal of a double, written in that way, is read as the double again: all that is looked at in
reading is which number the digits stand for.

* `Decimal.exists_positional` — what is written for a decimal, and what it stands for.
* `exists_positional` — a finite double that is not negative is written as two runs of digits
  around a point, which read back as it.
* `isFinite_nearest_iff`, `isNaN_nearest` — what rounding leads to.
-/

namespace SExpr

/-- A decimal is written as two runs of digits around a point, with no zero in front that could be
left out, and they stand for the number that it is. -/
lemma Decimal.exists_positional (d : Decimal) : ∃ whole fraction,
    d.positional = whole ++ '.' :: fraction ∧ IsRun Char.isDigit whole ∧
      IsRun Char.isDigit fraction ∧ (whole.head? = some '0' → whole = ['0']) ∧
      (Numeral.value 10 (whole ++ fraction) / 10 ^ fraction.length : ℚ) = d.toRat := by
  rw [positional, toRat_eq_div]
  split
  · next none =>
      refine ⟨_, ['0'], rfl, Numeral.isRun_decimalDigits _, .singleton rfl,
        Numeral.decimalDigits_eq_zero, ?_⟩
      have value : Numeral.value 10 ['0'] = 0 := rfl
      rw [Numeral.value_append, Numeral.value_decimalDigits, value, none, List.length_singleton]
      simp
  · next places some =>
      have power : 0 < 10 ^ (places + 1) := Nat.pow_pos (by omega)
      have low := Numeral.length_decimalDigits_le (Nat.succ_pos places)
        (Nat.mod_lt (d.digits * 10 ^ d.exponent.toNat) power)
      have run := Numeral.isRun_decimalDigits
        (d.digits * 10 ^ d.exponent.toNat % 10 ^ (places + 1))
      refine ⟨_, _, rfl, Numeral.isRun_decimalDigits _, ⟨?_, Numeral.isDigit_of_mem_padded run.2⟩,
        Numeral.decimalDigits_eq_zero, ?_⟩
      · rw [← List.length_pos_iff, Numeral.length_padded low]
        exact Nat.succ_pos places
      · rw [Numeral.value_append, Numeral.value_padded, Numeral.value_decimalDigits,
          Numeral.value_decimalDigits, Numeral.length_padded low, some, Nat.mul_comm,
          Nat.div_add_mod, Nat.cast_pow, Nat.cast_ofNat]

namespace Binary64

/-! ## Reading back -/

/-- A numeral with a point is read as the double nearest to what its digits stand for. -/
lemma isNearest_ofDecimal (whole fraction : List Char) :
    IsNearest (Numeral.value 10 (whole ++ fraction) / 10 ^ fraction.length)
      (ofDecimal whole fraction).magnitude := by
  have positive : 0 < 10 ^ fraction.length := Nat.pow_pos (by omega)
  have nearest := isNearest_nearestMagnitude positive (Numeral.value 10 (whole ++ fraction))
  rw [Nat.cast_pow, Nat.cast_ofNat] at nearest
  rwa [ofDecimal, Numeral.decimalValue_eq_value]

/-- So it is read as a double if a decimal of the same number is. -/
lemma ofDecimal_eq {x : Binary64} (sign : x.negative = false) {d : Decimal}
    (reads : d.nearestMagnitude = x.magnitude) {whole fraction : List Char}
    (same : (Numeral.value 10 (whole ++ fraction) / 10 ^ fraction.length : ℚ) = d.toRat) :
    ofDecimal whole fraction = x := by
  have nearest := isNearest_ofDecimal whole fraction
  rw [same] at nearest
  have magnitude : (ofDecimal whole fraction).magnitude = x.magnitude :=
    (nearest.unique d.isNearest).trans reads
  obtain ⟨negative, m, bound⟩ := x
  obtain rfl : negative = false := sign
  obtain rfl : _ = m := magnitude
  rfl

/-- A finite double that is not negative is written as two runs of digits around a point, which
read back as it. -/
lemma exists_positional {x : Binary64} (finite : x.isFinite = true) (sign : x.negative = false) :
    ∃ whole fraction, x.positional = whole ++ '.' :: fraction ∧ IsRun Char.isDigit whole ∧
      IsRun Char.isDigit fraction ∧ ofDecimal whole fraction = x := by
  obtain ⟨whole, fraction, spelled, run, run', -, same⟩ :=
    (shortest x.magnitude).exists_positional
  have reads := nearestMagnitude_shortest (of_decide_eq_true finite)
  exact ⟨whole, fraction, spelled, run, run', ofDecimal_eq sign reads same⟩

/-! ## What rounding leads to -/

variable (numerator denominator : Nat)

lemma negative_nearest : (nearest numerator denominator).negative = false := rfl

/-- A quotient is rounded to a number or to infinity. -/
lemma isNaN_nearest : (nearest numerator denominator).isNaN = false :=
  decide_eq_false (Nat.not_lt.mpr (Nat.min_le_left _ _))

lemma isFinite_nearest_iff :
    (nearest numerator denominator).isFinite = true ↔
      (nearest numerator denominator).isInfinite = false := by
  have most : (nearest numerator denominator).magnitude ≤ infinityMagnitude := Nat.min_le_left _ _
  rw [isFinite, isInfinite, decide_eq_true_iff, beq_eq_false_iff_ne]
  omega

lemma same_self {x : Binary64} (number : x.isNaN = false) : x.same x = true := by
  rw [same, number, beq_self_eq_true]
  rfl

end Binary64

end SExpr
