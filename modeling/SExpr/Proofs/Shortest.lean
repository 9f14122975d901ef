import Mathlib.Algebra.Order.Field.Power
import Mathlib.Data.Rat.Floor
import SExpr.Binary64.Shortest
import SExpr.Proofs.Numeral
import SExpr.Proofs.Rounding

/-!
# The decimal of a double is shortest

The decimal that is written for a double is looked for on grids, from the coarsest to the finest, and
on each of them two multiples are tried.  It reads back, because it was tried; and no decimal that
reads back is shorter.

Rounding respects the order of numbers, so what reads back as one double is all there is between two
numbers.  If anything between them lies on a grid, so does one of the two multiples next to the
double; and if a shorter decimal were among them, so were a power of ten, whose grid was passed in
vain.  The finest grid has a multiple for every double, as it is finer than doubles are apart.

* `Decimal.isNearest` — what a decimal is read as.
* `isSome_decimalOnGrid` — nothing that reads back is missed on a grid.
* `exists_grid` — the search succeeds, and nothing that reads back lies on a grid before.
* `nearestMagnitude_shortest`, `length_shortest_le` — what is found reads back and is shortest.
-/

namespace SExpr

namespace Decimal

/-- The number that a decimal is. -/
def toRat (decimal : Decimal) : ℚ := decimal.digits * 10 ^ decimal.exponent

variable {d : Decimal}

/-- It is the quotient that is rounded. -/
lemma toRat_eq_div (d : Decimal) : d.toRat =
    (d.digits * 10 ^ d.exponent.toNat : Nat) / (10 ^ (-d.exponent).toNat : Nat) := by
  obtain ⟨digits, exponent⟩ := d
  rcases Int.eq_nat_or_neg exponent with ⟨n, rfl | rfl⟩
  · simp [toRat]
  · simp [toRat, div_eq_mul_inv]

lemma toRat_nonneg (d : Decimal) : 0 ≤ d.toRat := by
  rw [toRat]
  positivity

/-- A decimal is rounded to the nearest double. -/
lemma isNearest (d : Decimal) : Binary64.IsNearest d.toRat d.nearestMagnitude := by
  rw [toRat_eq_div]
  exact Binary64.isNearest_nearestMagnitude (Nat.pow_pos (by omega)) _

/-- Decimals of the same number are read as the same double. -/
lemma nearestMagnitude_congr {d' : Decimal} (same : d.toRat = d'.toRat) :
    d.nearestMagnitude = d'.nearestMagnitude :=
  d.isNearest.unique (same ▸ d'.isNearest)

/-- A decimal between two numbers that are rounded to a double is read as that double. -/
lemma reads_of_between {magnitude : Nat} {q q' : ℚ} (nearest : Binary64.IsNearest q magnitude)
    (nearest' : Binary64.IsNearest q' magnitude) (le : q ≤ d.toRat) (le' : d.toRat ≤ q') :
    d.nearestMagnitude = magnitude :=
  Nat.le_antisymm (d.isNearest.mono nearest' le') (nearest.mono d.isNearest le)

end Decimal

namespace Binary64

open Numeral

variable {magnitude : Nat} {d : Decimal} {exponent : Int}

/-! ## Decimals that read back -/

lemma number_zero : number 0 = 0 := by
  rw [number, units]
  simp

/-- A decimal that is read as a finite magnitude is below the number of the next one. -/
lemma toRat_lt_of_reads (reads : d.nearestMagnitude = magnitude)
    (finite : magnitude < infinityMagnitude) : d.toRat < number (magnitude + 1) := by
  by_contra wrong
  have next := (isNearest_number (Nat.succ_le_of_lt finite)).mono d.isNearest (not_lt.mp wrong)
  omega

/-- A decimal that is not read as zero is not zero. -/
lemma toRat_pos_of_reads (reads : d.nearestMagnitude = magnitude) (positive : 0 < magnitude) :
    0 < d.toRat := by
  by_contra wrong
  have zero : d.toRat = number 0 := by
    rw [number_zero]
    exact le_antisymm (not_lt.mp wrong) d.toRat_nonneg
  have same := d.isNearest.unique (zero ▸ isNearest_number (Nat.zero_le _))
  omega

lemma digits_pos_of_reads (reads : d.nearestMagnitude = magnitude) (positive : 0 < magnitude) :
    0 < d.digits := by
  refine Nat.pos_of_ne_zero fun zero => ?_
  have some := toRat_pos_of_reads reads positive
  rw [Decimal.toRat, zero, Nat.cast_zero, zero_mul] at some
  exact lt_irrefl 0 some

/-- From one magnitude to the next the number is at most doubled, but for zero. -/
lemma number_succ_le (positive : 0 < magnitude) :
    number (magnitude + 1) ≤ 2 * number magnitude := by
  obtain ⟨places, significand, rfl, fits, normal⟩ := exists_significand magnitude
  have nonzero : 0 < significand := by
    rcases normal with rfl | normal
    · omega
    · exact Nat.lt_of_lt_of_le (Nat.pow_pos (by omega)) normal
  have doubled : units (places * 2 ^ fractionBits + significand + 1) ≤
      2 * units (places * 2 ^ fractionBits + significand) := by
    rw [Nat.add_assoc, units_of_significand fits (normal.imp_right Nat.le_succ_of_le),
      units_of_significand (Nat.le_of_lt fits) normal, ← Nat.mul_assoc]
    exact Nat.mul_le_mul_right _ (by omega)
  rw [number, number, ← mul_div_assoc]
  exact div_le_div_of_nonneg_right (by exact_mod_cast doubled) (by positivity)

/-- The power of ten above the coarsest is more than any double is, and more than infinity stands
for. -/
lemma number_infinityMagnitude_lt : number infinityMagnitude < 10 ^ (coarsestExponent + 1) := by
  have exponent : coarsestExponent + 1 = ((309 : Nat) : Int) := rfl
  have large : units infinityMagnitude < 10 ^ 309 * 2 ^ unitPlaces := by decide +kernel
  rw [exponent, zpow_natCast, number, div_lt_iff₀ (by positivity)]
  -- the exponent is only a name from here on, so that no power of it is worked out
  generalize 309 = power at large ⊢
  exact_mod_cast large

/-! ## One grid -/

/-- Of two candidates one is taken only if it fits. -/
lemma fits_of_taken (fits : Decimal → Prop) [DecidablePred fits] {nearer farther taken : Decimal}
    (choice : (if fits nearer then some nearer else if fits farther then some farther else none) =
      some taken) : fits taken ∧ (taken = nearer ∨ taken = farther) := by
  split at choice
  · next fit => exact Option.some.inj choice ▸ ⟨fit, .inl rfl⟩
  · split at choice
    · next fit => exact Option.some.inj choice ▸ ⟨fit, .inr rfl⟩
    · cases choice

/-- What is found on a grid lies on it and reads back. -/
lemma of_decimalOnGrid (taken : decimalOnGrid magnitude exponent = some d) :
    d.nearestMagnitude = magnitude ∧ d.exponent = exponent := by
  simp only [decimalOnGrid] at taken
  split at taken
  · cases taken
  · obtain ⟨reads, candidate⟩ :=
      fits_of_taken (fun decimal => decimal.nearestMagnitude = magnitude) taken
    refine ⟨reads, ?_⟩
    split at candidate <;> rcases candidate with rfl | rfl <;> rfl

/-- Of two candidates one is taken if any of them fits. -/
lemma isSome_of_fits (fits : Decimal → Prop) [DecidablePred fits] {nearer farther : Decimal}
    (either : fits nearer ∨ fits farther) :
    (if fits nearer then some nearer else if fits farther then some farther else none).isSome := by
  by_cases first : fits nearer
  · rw [if_pos first]
    rfl
  · rw [if_neg first, if_pos (either.resolve_left first)]
    rfl

/-- The number of a magnitude, counted in a power of ten. -/
lemma number_eq_mul (magnitude : Nat) (exponent : Int) : number magnitude =
    ((units magnitude * 10 ^ (-exponent).toNat : Nat) : ℚ) /
      (2 ^ unitPlaces * 10 ^ exponent.toNat : Nat) * 10 ^ exponent := by
  rw [number]
  generalize units magnitude = n
  generalize unitPlaces = places
  rcases Int.eq_nat_or_neg exponent with ⟨k, rfl | rfl⟩
  · have power : (10 : ℚ) ^ k ≠ 0 := by positivity
    simp [div_mul_eq_div_div, div_mul_cancel₀ _ power]
  · have power : (10 : ℚ) ^ k ≠ 0 := by positivity
    simp [mul_div_right_comm]

/-- The two multiples that are tried lie on either side of the double. -/
lemma number_between_multiples {numerator denominator : Nat} (scale : 0 < denominator)
    (count : number magnitude = (numerator : ℚ) / denominator * 10 ^ exponent) :
    (⟨numerator / denominator, exponent⟩ : Decimal).toRat ≤ number magnitude ∧
      number magnitude ≤ (⟨numerator / denominator + 1, exponent⟩ : Decimal).toRat := by
  have power : (0 : ℚ) ≤ 10 ^ exponent := by positivity
  have scale' : (0 : ℚ) < denominator := Nat.cast_pos.mpr scale
  rw [count]
  constructor
  · refine mul_le_mul_of_nonneg_right ?_ power
    rw [le_div_iff₀ scale']
    exact_mod_cast Nat.div_mul_le_self numerator denominator
  · refine mul_le_mul_of_nonneg_right ?_ power
    rw [div_le_iff₀ scale']
    exact_mod_cast (Nat.lt_mul_of_div_lt (Nat.lt_succ_self _) scale).le

/-- A grid with a multiple that reads back is not passed over. -/
lemma not_coarse {numerator denominator k : Nat} (scale : 0 < denominator)
    (count : number magnitude = (numerator : ℚ) / denominator * 10 ^ exponent)
    (reads : (⟨k, exponent⟩ : Decimal).nearestMagnitude = magnitude)
    (positive : 0 < magnitude) (finite : magnitude < infinityMagnitude) :
    ¬ numerator * 10 < denominator := by
  intro coarse
  have power : (0 : ℚ) < 10 ^ exponent := by positivity
  have small : number magnitude * 10 < 10 ^ exponent := by
    rw [count, mul_right_comm, div_mul_eq_mul_div, mul_lt_iff_lt_one_left power,
      div_lt_one (Nat.cast_pos.mpr scale)]
    exact_mod_cast coarse
  have some : (1 : ℚ) ≤ k := Nat.one_le_cast.mpr (digits_pos_of_reads reads positive)
  have once : 10 ^ exponent ≤ (⟨k, exponent⟩ : Decimal).toRat :=
    le_mul_of_one_le_left power.le some
  have less := toRat_lt_of_reads reads finite
  have doubled := number_succ_le positive
  linarith [number_strictMono positive, number_zero]

/-- If any multiple reads back, one of the two that are tried does. -/
lemma isSome_decimalOnGrid {k : Nat}
    (reads : (⟨k, exponent⟩ : Decimal).nearestMagnitude = magnitude)
    (positive : 0 < magnitude) (finite : magnitude < infinityMagnitude) :
    (decimalOnGrid magnitude exponent).isSome := by
  have count := number_eq_mul magnitude exponent
  have scale : 0 < 2 ^ unitPlaces * 10 ^ exponent.toNat := by positivity
  simp only [decimalOnGrid]
  generalize units magnitude * 10 ^ (-exponent).toNat = numerator at count ⊢
  generalize 2 ^ unitPlaces * 10 ^ exponent.toNat = denominator at count scale ⊢
  obtain ⟨below, above⟩ := number_between_multiples scale count
  have order {m n : Nat} (le : m ≤ n) :
      (⟨m, exponent⟩ : Decimal).toRat ≤ (⟨n, exponent⟩ : Decimal).toRat :=
    mul_le_mul_of_nonneg_right (Nat.cast_le.mpr le) (by positivity)
  have nearest : IsNearest (number magnitude) magnitude := isNearest_number finite.le
  have nearest' : IsNearest (⟨k, exponent⟩ : Decimal).toRat magnitude :=
    reads ▸ Decimal.isNearest _
  have either : (⟨numerator / denominator, exponent⟩ : Decimal).nearestMagnitude = magnitude ∨
      (⟨numerator / denominator + 1, exponent⟩ : Decimal).nearestMagnitude = magnitude := by
    rcases Nat.lt_or_ge (numerator / denominator) k with larger | smaller
    · exact .inr (Decimal.reads_of_between nearest nearest' above (order larger))
    · exact .inl (Decimal.reads_of_between nearest' nearest (order smaller) below)
  rw [if_neg (not_coarse scale count reads positive finite)]
  refine isSome_of_fits (fun decimal => decimal.nearestMagnitude = magnitude) ?_
  split
  · exact either
  · exact either.symm

/-! ## The finest grid -/

/-- Doubles are a unit or more apart. -/
lemma number_add_unit_le {lower upper : Nat} (less : lower < upper) :
    number lower + 1 / 2 ^ unitPlaces ≤ number upper := by
  have units : units lower + 1 ≤ units upper := units_strictMono less
  rw [number, number, ← add_div]
  exact div_le_div_of_nonneg_right (by exact_mod_cast units) (by positivity)

/-- On a grid that is fine enough, the multiple below a double is read as it. -/
lemma exists_reads (finite : magnitude < infinityMagnitude)
    (fine : 2 * 10 ^ exponent ≤ (1 / 2 ^ unitPlaces : ℚ)) :
    ∃ k : Nat, (⟨k, exponent⟩ : Decimal).nearestMagnitude = magnitude := by
  have power : (0 : ℚ) < 10 ^ exponent := by positivity
  have positive : 0 ≤ number magnitude / 10 ^ exponent :=
    div_nonneg (div_nonneg (Nat.cast_nonneg _) (by positivity)) power.le
  refine ⟨⌊number magnitude / 10 ^ exponent⌋₊, ?_⟩
  generalize decimal : (⟨⌊number magnitude / 10 ^ exponent⌋₊, exponent⟩ : Decimal) = d
  have below : d.toRat ≤ number magnitude := by
    rw [← decimal, Decimal.toRat, ← le_div_iff₀ power]
    exact Nat.floor_le positive
  have above : number magnitude < d.toRat + 10 ^ exponent := by
    rw [← decimal, Decimal.toRat, ← add_one_mul, ← div_lt_iff₀ power]
    exact Nat.lt_floor_add_one _
  have most := d.isNearest.mono (isNearest_number finite.le) below
  rcases Nat.eq_or_lt_of_le most with same | less
  · exact same
  · have nearer := (lower_nearer_iff less).mp (d.isNearest.nearest magnitude finite.le)
    have apart := number_add_unit_le less
    linarith

/-- The last grid of those that are gone through is fine enough. -/
lemma finest_fine : 2 * 10 ^ (coarsestExponent - (gridCount - 1 : Nat)) ≤
    (1 / 2 ^ unitPlaces : ℚ) := by
  have exponent : coarsestExponent - (gridCount - 1 : Nat) = -((324 : Nat) : Int) := rfl
  have large : 2 * 2 ^ unitPlaces ≤ 10 ^ 324 := by decide +kernel
  rw [exponent, zpow_neg, zpow_natCast, ← div_eq_mul_inv]
  -- as above, neither power is to be worked out
  generalize 324 = power at large ⊢
  generalize unitPlaces = places at large ⊢
  rw [div_le_div_iff₀ (by positivity) (by positivity), one_mul]
  exact_mod_cast large

/-! ## The shortest decimal -/

/-- A search through the numbers below a bound finds the first one. -/
lemma exists_of_findSome?_range {α : Type} {n : Nat} {f : Nat → Option α} {a : α}
    (found : (List.range n).findSome? f = some a) : ∃ k < n, f k = some a ∧ ∀ j < k, f j = none := by
  obtain ⟨before, k, after, split, here, missed⟩ := List.findSome?_eq_some_iff.mp found
  have member : k ∈ List.range n := by simp [split]
  refine ⟨k, List.mem_range.mp member, here, fun j less => missed j ?_⟩
  have ordered := List.pairwise_lt_range (n := n)
  have member' : j ∈ List.range n := List.mem_range.mpr (by rw [List.mem_range] at member; omega)
  rw [split] at ordered member'
  rcases List.mem_append.mp member' with earlier | later
  · exact earlier
  · rcases List.mem_cons.mp later with rfl | later
    · omega
    · have := List.rel_of_pairwise_cons (List.pairwise_append.mp ordered).2.1 later
      omega

/-- The decimal that is written is found on the first grid where any is. -/
lemma exists_grid (positive : 0 < magnitude) (finite : magnitude < infinityMagnitude) :
    ∃ k < gridCount, decimalOnGrid magnitude (coarsestExponent - k) = some (shortest magnitude) ∧
      ∀ j < k, decimalOnGrid magnitude (coarsestExponent - j) = none := by
  refine exists_of_findSome?_range ?_
  obtain ⟨k, reads⟩ := exists_reads finite finest_fine
  have last := isSome_decimalOnGrid reads positive finite
  have searched : ((List.range gridCount).findSome? fun k : Nat =>
      decimalOnGrid magnitude (coarsestExponent - k)).isSome :=
    List.findSome?_isSome_iff.mpr ⟨gridCount - 1, List.mem_range.mpr (by decide), last⟩
  obtain ⟨decimal, found⟩ := Option.isSome_iff_exists.mp searched
  rw [shortest, if_neg positive.ne', found]
  rfl

/-- No decimal of a larger power of ten reads back. -/
lemma exponent_le_of_reads (reads : d.nearestMagnitude = magnitude) (positive : 0 < magnitude)
    (finite : magnitude < infinityMagnitude) : d.exponent ≤ (shortest magnitude).exponent := by
  obtain ⟨k, -, found, first⟩ := exists_grid positive finite
  rw [(of_decimalOnGrid found).2]
  by_contra coarser
  have some : (1 : ℚ) ≤ d.digits := Nat.one_le_cast.mpr (digits_pos_of_reads reads positive)
  have small : d.exponent ≤ coarsestExponent := by
    by_contra large
    have least : (10 : ℚ) ^ (coarsestExponent + 1) ≤ d.toRat := by
      calc (10 : ℚ) ^ (coarsestExponent + 1)
          ≤ 10 ^ d.exponent := zpow_le_zpow_right₀ (by norm_num) (by omega)
        _ ≤ d.toRat := le_mul_of_one_le_left (by positivity) some
    have below := toRat_lt_of_reads reads finite
    have most := number_strictMono.monotone (Nat.succ_le_of_lt finite)
    exact absurd (least.trans_lt (below.trans_le most)) number_infinityMagnitude_lt.not_gt
  have missed := first (coarsestExponent - d.exponent).toNat (by omega)
  have grid : coarsestExponent - (coarsestExponent - d.exponent).toNat = d.exponent := by omega
  rw [grid, Option.eq_none_iff_forall_ne_some] at missed
  obtain ⟨decimal, hit⟩ := Option.isSome_iff_exists.mp (isSome_decimalOnGrid reads positive finite)
  exact missed decimal hit

/-- The decimal that is written reads back. -/
lemma nearestMagnitude_shortest (finite : magnitude < infinityMagnitude) :
    (shortest magnitude).nearestMagnitude = magnitude := by
  rcases Nat.eq_zero_or_pos magnitude with rfl | positive
  · decide +kernel
  · obtain ⟨k, -, found, -⟩ := exists_grid positive finite
    exact (of_decimalOnGrid found).1

/-- If the decimal that is written were longer than another one that reads back, there would be a
power of ten between the two. -/
lemma reads_power {width : Nat} (reads : d.nearestMagnitude = magnitude) (positive : 0 < magnitude)
    (finite : magnitude < infinityMagnitude) (small : d.digits ≤ 10 ^ width)
    (large : 10 ^ width ≤ (shortest magnitude).digits) :
    (⟨1, (shortest magnitude).exponent + width⟩ : Decimal).nearestMagnitude = magnitude := by
  have order := exponent_le_of_reads reads positive finite
  have reads' := nearestMagnitude_shortest finite
  generalize shortest magnitude = written at order reads' large ⊢
  have scale : (0 : ℚ) ≤ 10 ^ written.exponent := by positivity
  have power : (⟨1, written.exponent + width⟩ : Decimal).toRat =
      (10 ^ width : Nat) * 10 ^ written.exponent := by
    rw [Decimal.toRat, zpow_add₀ (by norm_num), zpow_natCast, Nat.cast_one, one_mul, mul_comm,
      Nat.cast_pow, Nat.cast_ofNat]
  have nearest : IsNearest d.toRat magnitude := reads ▸ d.isNearest
  have nearest' : IsNearest written.toRat magnitude := reads' ▸ written.isNearest
  refine Decimal.reads_of_between nearest nearest' ?_ ?_
  · rw [power]
    calc (d.digits : ℚ) * 10 ^ d.exponent
        ≤ d.digits * 10 ^ written.exponent :=
          mul_le_mul_of_nonneg_left (zpow_le_zpow_right₀ (by norm_num) order) (by positivity)
      _ ≤ (10 ^ width : Nat) * 10 ^ written.exponent :=
          mul_le_mul_of_nonneg_right (Nat.cast_le.mpr small) scale
  · rw [power]
    exact mul_le_mul_of_nonneg_right (Nat.cast_le.mpr large) scale

/-- No decimal that reads back has fewer digits than the one that is written. -/
theorem length_shortest_le (reads : d.nearestMagnitude = magnitude)
    (finite : magnitude < infinityMagnitude) :
    (decimalDigits (shortest magnitude).digits).length ≤ (decimalDigits d.digits).length := by
  have some : 0 < (decimalDigits d.digits).length :=
    List.length_pos_iff.mpr (isRun_decimalDigits d.digits).1
  rcases Nat.eq_zero_or_pos magnitude with rfl | positive
  · exact some
  · by_contra longer
    generalize length : (decimalDigits d.digits).length = width at some longer
    rw [decimalDigits_eq_toDigits] at length longer
    have small : d.digits < 10 ^ width :=
      (Nat.length_toDigits_le_iff (by omega) some).mp (Nat.le_of_eq length)
    have large : 10 ^ width ≤ (shortest magnitude).digits := by
      rw [Nat.length_toDigits_le_iff (by omega) some] at longer
      exact Nat.le_of_not_lt longer
    -- the power of ten would have been found on its grid, which was tried before
    have coarse := exponent_le_of_reads (reads_power reads positive finite small.le large)
      positive finite
    simp only [add_le_iff_nonpos_right] at coarse
    omega

end Binary64

end SExpr
