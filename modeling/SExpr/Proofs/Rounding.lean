import Mathlib.Algebra.Order.Field.Rat
import Mathlib.Data.Nat.Dist
import Mathlib.Tactic.Lemma
import Mathlib.Tactic.Linarith
import Mathlib.Tactic.Positivity
import Mathlib.Tactic.Ring
import SExpr.Binary64.Rounding

/-!
# What rounding means

The nearest double is found by counting bits and cutting off all but 53.  What it is has nothing to
do with bits: of all doubles without a sign it is the one at the least distance, and of two at the
same distance the one whose last bit is zero.  Infinity takes part as the power of two that would
come next, so what is not below the middle between the largest finite double and that power is too
large.

* `units_strictMono` — magnitudes are in the order of the numbers that they encode.
* `NearestIn.units` — the nearest significand makes up the nearest of all magnitudes.
* `IsNearest` — the magnitude that a number is to be rounded to.
* `IsNearest.mono`, `IsNearest.unique` — there is one only, and larger numbers are not rounded to
  smaller magnitudes.
* `isNearest_nearestMagnitude` — it is the one that is found for a quotient.

Since the quotient is all that counts, a number that is written in two ways is rounded in one.
-/

namespace SExpr.Binary64

variable {numerator denominator numerator' denominator' magnitude : Nat}

/-! ## Units -/

/-- A magnitude counts binary places and a significand.  The significand has 53 bits, or fewer if
there are no places. -/
lemma exists_significand (magnitude : Nat) : ∃ places significand,
    magnitude = places * 2 ^ fractionBits + significand ∧ significand < 2 ^ (fractionBits + 1) ∧
      (places = 0 ∨ 2 ^ fractionBits ≤ significand) := by
  simp only [fractionBits]
  by_cases small : magnitude < 2 ^ 53
  · exact ⟨0, magnitude, by omega, small, .inl rfl⟩
  · exact ⟨magnitude / 2 ^ 52 - 1, 2 ^ 52 + magnitude % 2 ^ 52, by omega, by omega, .inr (by omega)⟩

lemma units_of_fields (exponent : Nat) {fraction : Nat} (small : fraction < 2 ^ fractionBits) :
    units (exponent * 2 ^ fractionBits + fraction) =
      if exponent = 0 then fraction else (2 ^ fractionBits + fraction) * 2 ^ (exponent - 1) := by
  have field : (exponent * 2 ^ fractionBits + fraction) / 2 ^ fractionBits = exponent := by
    rw [Nat.mul_comm, Nat.mul_add_div (by decide), Nat.div_eq_of_lt small, Nat.add_zero]
  have rest : (exponent * 2 ^ fractionBits + fraction) % 2 ^ fractionBits = fraction := by
    rw [Nat.mul_add_mod', Nat.mod_eq_of_lt small]
  simp only [units, field, rest]

/-- The number of a magnitude is its significand, moved up by the places.  The smallest significand
that is too long will do as well, which is why rounding may carry. -/
lemma units_of_significand {places significand : Nat}
    (fits : significand ≤ 2 ^ (fractionBits + 1))
    (normal : places = 0 ∨ 2 ^ fractionBits ≤ significand) :
    units (places * 2 ^ fractionBits + significand) = significand * 2 ^ places := by
  have twice : 2 ^ (fractionBits + 1) = 2 ^ fractionBits + 2 ^ fractionBits := by decide
  by_cases subnormal : significand < 2 ^ fractionBits
  · obtain rfl : places = 0 := by omega
    rw [units_of_fields 0 subnormal, if_pos rfl, Nat.pow_zero, Nat.mul_one]
  · by_cases carry : significand = 2 ^ (fractionBits + 1)
    · have moved : places * 2 ^ fractionBits + significand =
          (places + 2) * 2 ^ fractionBits + 0 := by
        rw [carry, twice, Nat.add_mul, Nat.two_mul, Nat.add_zero]
      rw [moved, units_of_fields _ (by decide), if_neg (by omega), carry, Nat.add_zero,
        Nat.pow_succ, Nat.mul_assoc, ← Nat.pow_succ']
      rfl
    · have moved : places * 2 ^ fractionBits + significand =
          (places + 1) * 2 ^ fractionBits + (significand - 2 ^ fractionBits) := by
        rw [Nat.succ_mul]
        omega
      rw [moved, units_of_fields _ (by omega), if_neg (by omega), Nat.add_sub_cancel,
        Nat.add_sub_cancel' (by omega)]

/-- Magnitudes are in the order of the numbers that they encode. -/
lemma units_strictMono : StrictMono units := by
  refine strictMono_nat_of_lt_succ fun magnitude => ?_
  obtain ⟨places, significand, rfl, fits, normal⟩ := exists_significand magnitude
  rw [units_of_significand (Nat.le_of_lt fits) normal, Nat.add_assoc,
    units_of_significand fits (normal.imp_right Nat.le_succ_of_le)]
  exact Nat.mul_lt_mul_of_pos_right (Nat.lt_succ_self _) (Nat.pow_pos (by decide))

/-- Large numbers of magnitudes are multiples of powers of two. -/
lemma two_pow_dvd_units {places : Nat} (large : 2 ^ fractionBits * 2 ^ places ≤ units magnitude) :
    2 ^ places ∣ units magnitude := by
  obtain ⟨places', significand, rfl, fits, normal⟩ := exists_significand magnitude
  rw [units_of_significand (Nat.le_of_lt fits) normal] at large ⊢
  refine Nat.dvd_mul_left_of_dvd (Nat.pow_dvd_pow 2 ?_) significand
  by_contra fewer
  have less : significand * 2 ^ places' < 2 ^ fractionBits * 2 ^ places := by
    calc significand * 2 ^ places'
        < 2 ^ (fractionBits + 1) * 2 ^ places' :=
          Nat.mul_lt_mul_of_pos_right fits (Nat.pow_pos (by decide))
      _ = 2 ^ fractionBits * 2 ^ (places' + 1) := by
          rw [Nat.pow_succ, Nat.pow_succ, Nat.mul_assoc, Nat.mul_comm 2]
      _ ≤ 2 ^ fractionBits * 2 ^ places :=
          Nat.mul_le_mul_left _ (Nat.pow_le_pow_right (by decide) (by omega))
  omega

/-! ## The nearest whole number -/

/-- What is rounded to is no further away than half of what lies between two multiples, and that far
only if it is even. -/
lemma two_mul_dist_roundHalfEven (positive : 0 < denominator) (numerator : Nat) :
    2 * (roundHalfEven numerator denominator * denominator).dist numerator ≤ denominator ∧
      (2 * (roundHalfEven numerator denominator * denominator).dist numerator = denominator →
        roundHalfEven numerator denominator % 2 = 0) := by
  have split := Nat.div_add_mod' numerator denominator
  have small := Nat.mod_lt numerator positive
  have next : (numerator / denominator + 1) * denominator =
    numerator / denominator * denominator + denominator := Nat.succ_mul _ _
  simp only [roundHalfEven, Nat.dist]
  split <;> omega

/-- Of a sequence of numbers, one is nearest to a target: none is nearer, and if another one is as near,
this one has an even position. -/
structure NearestIn (numbers : Nat → Nat) (target best : Nat) : Prop where
  least : ∀ k, (numbers best).dist target ≤ (numbers k).dist target
  even : ∀ k ≠ best, (numbers best).dist target = (numbers k).dist target → best % 2 = 0

/-- What is rounded to is the nearest multiple. -/
lemma nearestIn_roundHalfEven (positive : 0 < denominator) (numerator : Nat) :
    NearestIn (· * denominator) numerator (roundHalfEven numerator denominator) := by
  obtain ⟨near, even⟩ := two_mul_dist_roundHalfEven positive numerator
  have apart {k : Nat} (other : k ≠ roundHalfEven numerator denominator) : denominator ≤
      (roundHalfEven numerator denominator * denominator).dist (k * denominator) := by
    rw [Nat.dist_mul_right]
    exact Nat.le_mul_of_pos_left _ (Nat.dist_pos_of_ne other.symm)
  simp only [Nat.dist] at near even apart
  constructor
  · intro k
    by_cases same : k = roundHalfEven numerator denominator
    · rw [same]
    · have apart := apart same
      simp only [Nat.dist]
      omega
  · intro k other tie
    have apart := apart other
    simp only [Nat.dist] at tie
    exact even (by omega)

lemma le_roundHalfEven {k : Nat} (positive : 0 < denominator)
    (least : k * denominator ≤ numerator) : k ≤ roundHalfEven numerator denominator := by
  have floor : k ≤ numerator / denominator := (Nat.le_div_iff_mul_le positive).mpr least
  simp only [roundHalfEven]
  split <;> omega

lemma roundHalfEven_le {k : Nat} (positive : 0 < denominator)
    (less : numerator < k * denominator) : roundHalfEven numerator denominator ≤ k := by
  have floor : numerator / denominator < k := (Nat.div_lt_iff_lt_mul positive).mpr less
  simp only [roundHalfEven]
  split <;> omega

/-! ## Finding the nearest number -/

/-- So many places leave 53 bits of a quotient, or fewer if there are no places. -/
lemma places_bounds (positive : 0 < denominator) (numerator : Nat) {places : Nat}
    (count : (numerator / denominator).log2 - fractionBits = places) :
    numerator < 2 ^ (fractionBits + 1) * (denominator * 2 ^ places) ∧
      (places = 0 ∨ 2 ^ fractionBits * (denominator * 2 ^ places) ≤ numerator) := by
  have above : numerator / denominator < 2 ^ (fractionBits + 1 + places) :=
    Nat.lt_of_lt_of_le Nat.lt_log2_self (Nat.pow_le_pow_right (by decide) (by omega))
  rw [Nat.div_lt_iff_lt_mul positive, Nat.pow_add, Nat.mul_assoc, Nat.mul_comm _ denominator]
    at above
  refine ⟨above, ?_⟩
  rcases Nat.eq_zero_or_pos places with none | some
  · exact .inl none
  · have exponent : (numerator / denominator).log2 = fractionBits + places := by omega
    have nonzero : numerator / denominator ≠ 0 := by
      intro zero
      rw [zero, Nat.log2_zero] at exponent
      omega
    have below := (Nat.le_div_iff_mul_le positive).mp (Nat.log2_self_le nonzero)
    rw [exponent, Nat.pow_add, Nat.mul_assoc, Nat.mul_comm _ denominator] at below
    exact .inr below

/-- The nearest significand makes up the nearest number of all magnitudes, be they finite or not.
Numbers are counted in as many parts of a unit as the denominator says. -/
lemma NearestIn.units {scaled places significand : Nat} (positive : 0 < denominator)
    (fits : significand ≤ 2 ^ (fractionBits + 1))
    (normal : places = 0 ∨ 2 ^ fractionBits ≤ significand)
    (below : places = 0 ∨ 2 ^ fractionBits * (denominator * 2 ^ places) ≤ scaled)
    (nearest : NearestIn (· * (denominator * 2 ^ places)) scaled significand) :
    NearestIn (Binary64.units · * denominator) scaled
      (places * 2 ^ fractionBits + significand) := by
  have number := units_of_significand fits normal
  have parts (k : Nat) : k * 2 ^ places * denominator = k * (denominator * 2 ^ places) := by
    rw [Nat.mul_assoc, Nat.mul_comm denominator]
  -- what is no multiple is small, and so further away than the smallest significand
  have further {other : Nat} (odd : ¬ 2 ^ places ∣ Binary64.units other) :
      (significand * (denominator * 2 ^ places)).dist scaled <
        (Binary64.units other * denominator).dist scaled := by
    have small : Binary64.units other < 2 ^ fractionBits * 2 ^ places :=
      Nat.lt_of_not_le fun large => odd (two_pow_dvd_units large)
    have large : 2 ^ fractionBits * (denominator * 2 ^ places) ≤ scaled := by
      rcases below with rfl | large
      · exact absurd (Nat.one_dvd _) odd
      · exact large
    have least := nearest.least (2 ^ fractionBits)
    have less := Nat.mul_lt_mul_of_pos_right small positive
    rw [parts] at less
    simp only [Nat.dist] at *
    omega
  constructor
  · intro other
    rw [number, parts]
    by_cases aligned : 2 ^ places ∣ Binary64.units other
    · obtain ⟨k, multiple⟩ := aligned
      rw [multiple, Nat.mul_comm _ k, parts]
      exact nearest.least k
    · exact Nat.le_of_lt (further aligned)
  · intro other different tie
    rw [number, parts] at tie
    obtain ⟨k, multiple⟩ : 2 ^ places ∣ Binary64.units other :=
      not_imp_comm.mp further (Nat.not_lt.mpr (Nat.le_of_eq tie.symm))
    rw [Nat.mul_comm] at multiple
    rw [multiple, parts] at tie
    have parity : significand % 2 = 0 := by
      refine nearest.even k ?_ tie
      rintro rfl
      exact different (units_strictMono.injective (multiple.trans number.symm))
    simp only [fractionBits]
    omega

/-- A quotient is rounded to a significand that is moved up by some places, and what these make up is
nearest. -/
lemma exists_rounded (positive : 0 < denominator) (numerator : Nat) :
    ∃ rounded, nearestMagnitude numerator denominator = min infinityMagnitude rounded ∧
      NearestIn (units · * denominator) (numerator * 2 ^ unitPlaces) rounded := by
  refine ⟨_, rfl, ?_⟩
  generalize numerator * 2 ^ unitPlaces = scaled
  generalize count : (scaled / denominator).log2 - fractionBits = places
  obtain ⟨above, below⟩ := places_bounds positive scaled count
  have step : 0 < denominator * 2 ^ places := Nat.mul_pos positive (Nat.pow_pos (by decide))
  exact (nearestIn_roundHalfEven step scaled).units positive (roundHalfEven_le step above)
    (below.imp_right (le_roundHalfEven step)) below

/-! ## The nearest double -/

/-- The number that a magnitude encodes; for infinity, the power of two above all finite ones. -/
def number (magnitude : Nat) : ℚ := units magnitude / 2 ^ unitPlaces

lemma number_strictMono : StrictMono number := fun _ _ less =>
  div_lt_div_of_pos_right (Nat.cast_lt.mpr (units_strictMono less)) (by positivity)

/-- The magnitude that a number is to be rounded to: none is nearer, and if another one is as near,
this one is even. -/
structure IsNearest (q : ℚ) (magnitude : Nat) : Prop where
  le_infinity : magnitude ≤ infinityMagnitude
  nearest : ∀ other ≤ infinityMagnitude, |number magnitude - q| ≤ |number other - q|
  even : ∀ other ≤ infinityMagnitude, other ≠ magnitude →
    |number magnitude - q| = |number other - q| → magnitude % 2 = 0

lemma cast_dist (m n : Nat) : (m.dist n : ℚ) = |(m : ℚ) - n| := by
  rcases Nat.le_total m n with le | le
  · rw [Nat.dist_eq_sub_of_le le, Nat.cast_sub le, abs_sub_comm,
      abs_of_nonneg (sub_nonneg.mpr (Nat.cast_le.mpr le))]
  · rw [Nat.dist_eq_sub_of_le_right le, Nat.cast_sub le,
      abs_of_nonneg (sub_nonneg.mpr (Nat.cast_le.mpr le))]

/-- A distance is counted in units, and in as many parts of a unit as the denominator says. -/
lemma abs_number_sub (positive : 0 < denominator) (numerator magnitude : Nat) :
    |number magnitude - numerator / denominator| =
      ((units magnitude * denominator).dist (numerator * 2 ^ unitPlaces) : ℚ) /
        (2 ^ unitPlaces * denominator) := by
  have scale : (0 : ℚ) < 2 ^ unitPlaces * denominator := by positivity
  have parts : number magnitude - numerator / denominator =
      ((units magnitude * denominator : Nat) - (numerator * 2 ^ unitPlaces : Nat) : ℚ) /
        (2 ^ unitPlaces * denominator) := by
    have nonzero : (denominator : ℚ) ≠ 0 := (Nat.cast_pos.mpr positive).ne'
    rw [number, div_sub_div _ _ (by positivity) nonzero]
    push_cast
    rw [mul_comm (2 ^ unitPlaces : ℚ) numerator]
  rw [parts, abs_div, abs_of_pos scale, cast_dist]

/-- Which of two magnitudes is nearer is a matter of the side of their middle that the number is on. -/
lemma sq_sub_sq_number (q : ℚ) (lower upper : Nat) :
    (number lower - q) ^ 2 - (number upper - q) ^ 2 =
      (number upper - number lower) * (2 * q - (number lower + number upper)) := by
  ring

/-- The larger one is as near if the number is not below the middle. -/
lemma upper_nearer_iff {q : ℚ} {lower upper : Nat} (less : lower < upper) :
    |number upper - q| ≤ |number lower - q| ↔ number lower + number upper ≤ 2 * q := by
  have order := sub_pos.mpr (number_strictMono less)
  rw [← sq_le_sq, ← sub_nonneg, sq_sub_sq_number, mul_nonneg_iff_of_pos_left order, sub_nonneg]

/-- The smaller one is as near if the number is not above it. -/
lemma lower_nearer_iff {q : ℚ} {lower upper : Nat} (less : lower < upper) :
    |number lower - q| ≤ |number upper - q| ↔ 2 * q ≤ number lower + number upper := by
  have order := sub_pos.mpr (number_strictMono less)
  rw [← sq_le_sq, ← sub_nonpos, sq_sub_sq_number, ← neg_nonneg, ← mul_neg,
    mul_nonneg_iff_of_pos_left order, neg_sub, sub_nonneg]

/-- Two magnitudes are as near only if the number is in the middle, so no third one is between. -/
lemma IsNearest.eq_succ {q : ℚ} {lower upper : Nat} (nearest : IsNearest q upper)
    (less : lower < upper) (middle : number lower + number upper = 2 * q) : upper = lower + 1 := by
  by_contra apart
  have between : lower + 1 < upper := by omega
  have order := number_strictMono (Nat.lt_succ_self lower)
  have least := nearest.nearest (lower + 1)
    (Nat.le_trans (Nat.le_of_lt between) nearest.le_infinity)
  rw [upper_nearer_iff between] at least
  simp only [Nat.succ_eq_add_one] at order
  linarith

/-- Larger numbers are not rounded to smaller magnitudes. -/
lemma IsNearest.mono {q q' : ℚ} {magnitude magnitude' : Nat} (nearest : IsNearest q magnitude)
    (nearest' : IsNearest q' magnitude') (le : q ≤ q') : magnitude ≤ magnitude' := by
  by_contra wrong
  have less : magnitude' < magnitude := Nat.lt_of_not_le wrong
  have near := nearest.nearest magnitude' nearest'.le_infinity
  have near' := nearest'.nearest magnitude nearest.le_infinity
  have above := (upper_nearer_iff less).mp near
  have below := (lower_nearer_iff less).mp near'
  -- both numbers can only be the middle, and neither is rounded to what is odd
  obtain rfl : q = q' := by linarith
  have tie := le_antisymm near ((lower_nearer_iff less).mpr below)
  have next := nearest.eq_succ less (le_antisymm above below)
  have even := nearest.even magnitude' nearest'.le_infinity (Nat.ne_of_lt less) tie
  have even' := nearest'.even magnitude nearest.le_infinity (Nat.ne_of_gt less) tie.symm
  omega

/-- There is one magnitude only to round a number to. -/
lemma IsNearest.unique {q : ℚ} {magnitude magnitude' : Nat} (nearest : IsNearest q magnitude)
    (nearest' : IsNearest q magnitude') : magnitude = magnitude' :=
  Nat.le_antisymm (nearest.mono nearest' le_rfl) (nearest'.mono nearest le_rfl)

/-- What is not below the middle between the largest finite double and the next power of two is too
large for a finite one. -/
lemma isNearest_infinity_iff {q : ℚ} : IsNearest q infinityMagnitude ↔
    number (infinityMagnitude - 1) + number infinityMagnitude ≤ 2 * q := by
  have last : infinityMagnitude - 1 < infinityMagnitude := by decide
  constructor
  · intro nearest
    exact (upper_nearer_iff last).mp (nearest.nearest _ last.le)
  · intro above
    refine ⟨Nat.le_refl _, fun other bound => ?_, fun _ _ _ _ => by decide⟩
    rcases Nat.eq_or_lt_of_le bound with rfl | less
    · exact le_rfl
    · have most := number_strictMono.monotone (Nat.le_sub_one_of_lt less)
      exact (upper_nearer_iff less).mpr (by linarith)

/-- The magnitude that is found for a quotient is the one that it is to be rounded to. -/
theorem isNearest_nearestMagnitude (positive : 0 < denominator) (numerator : Nat) :
    IsNearest (numerator / denominator) (nearestMagnitude numerator denominator) := by
  obtain ⟨rounded, found, nearest⟩ := exists_rounded positive numerator
  have scale : (0 : ℚ) < 2 ^ unitPlaces * denominator := by positivity
  have least (other : Nat) :
      |number rounded - numerator / denominator| ≤ |number other - numerator / denominator| := by
    rw [abs_number_sub positive, abs_number_sub positive, div_le_div_iff_of_pos_right scale,
      Nat.cast_le]
    exact nearest.least other
  have even (other : Nat) (different : other ≠ rounded)
      (tie : |number rounded - numerator / denominator| =
        |number other - numerator / denominator|) : rounded % 2 = 0 := by
    rw [abs_number_sub positive, abs_number_sub positive, div_left_inj' scale.ne', Nat.cast_inj]
      at tie
    exact nearest.even other different tie
  rw [found]
  rcases Nat.lt_or_ge infinityMagnitude rounded with large | finite
  · rw [Nat.min_eq_left (Nat.le_of_lt large)]
    -- a number that is nearer to a larger one lies behind the one that infinity stands for
    have behind := (upper_nearer_iff large).mp (least infinityMagnitude)
    have order := number_strictMono large
    have order' := number_strictMono.monotone (Nat.sub_le infinityMagnitude 1)
    exact isNearest_infinity_iff.mpr (by linarith)
  · rw [Nat.min_eq_right finite]
    exact ⟨finite, fun other _ => least other, fun other _ => even other⟩

/-- What a magnitude encodes is not rounded. -/
lemma isNearest_number (bound : magnitude ≤ infinityMagnitude) :
    IsNearest (number magnitude) magnitude := by
  have exact : |number magnitude - number magnitude| = 0 := by rw [sub_self, abs_zero]
  refine ⟨bound, fun other _ => exact ▸ abs_nonneg _, fun other _ different tie => ?_⟩
  rw [exact, eq_comm, abs_eq_zero, sub_eq_zero] at tie
  exact absurd (number_strictMono.injective tie) different

/-- Rounding looks at the quotient only. -/
lemma nearest_congr (positive : 0 < denominator) (positive' : 0 < denominator')
    (same : (numerator / denominator : ℚ) = numerator' / denominator') :
    nearest numerator denominator = nearest numerator' denominator' := by
  have magnitude : nearestMagnitude numerator denominator =
      nearestMagnitude numerator' denominator' := by
    refine IsNearest.unique (isNearest_nearestMagnitude positive numerator) ?_
    rw [same]
    exact isNearest_nearestMagnitude positive' numerator'
  simp only [nearest, magnitude]

/-- An integer is too large for a finite double from the middle between the largest one and the next
power of two on. -/
lemma isInfinite_ofNat_iff (n : Nat) : (ofNat n).isInfinite = true ↔ 2 ^ 1024 - 2 ^ 970 ≤ n := by
  have nearest := isNearest_nearestMagnitude Nat.one_pos n
  rw [Nat.cast_one, div_one] at nearest
  have infinite : (ofNat n).isInfinite = true ↔ IsNearest n infinityMagnitude := by
    rw [isInfinite, beq_iff_eq]
    exact ⟨fun same => same ▸ nearest, fun nearest' => nearest.unique nearest'⟩
  have sum : units (infinityMagnitude - 1) + units infinityMagnitude =
      2 * (2 ^ 1024 - 2 ^ 970) * 2 ^ unitPlaces := by decide +kernel
  rw [infinite, isNearest_infinity_iff, number, number, ← add_div, div_le_iff₀ (by positivity),
    ← Nat.cast_add, sum]
  generalize 2 ^ 1024 - 2 ^ 970 = bound
  have positive : 0 < 2 ^ unitPlaces := Nat.pow_pos (by omega)
  rw [← Nat.mul_le_mul_right_iff positive, ← Nat.mul_le_mul_left_iff Nat.two_pos, ← Nat.mul_assoc,
    ← Nat.mul_assoc]
  exact_mod_cast Iff.rfl

end SExpr.Binary64
