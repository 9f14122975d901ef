import SExpr.Binary64.Notation
import SExpr.Proofs.Binary64
import SExpr.Proofs.Literal.Number
import SExpr.Spelling

/-!
# From one notation to another

The spelling of a double may be got from any numeral that is read as it, in whichever notation: the
zeros that an exponent stands for are written out on that side of the digits where they belong, and
the point is set.  What comes of it stands for the very number that the numeral stands for, so it is
read as the double again.

The shortest numeral of a double, which messages give, is one that this can be done with.  That is
how the spelling of a double comes about, and how it is written here at once.

* `Decimal.withPoint_fixed` — writing digits in their places, and their positions by arithmetic, come
  to the same.
* `Decimal.ofText?_scientific` — a decimal is found again from its digits and its exponent.
* `Decimal.exists_ofText?_general` — and from what is written for it in a message.
* `Spelling.float_inPlaces` — the spelling of a double, from any of its numerals.
-/

namespace SExpr

open Numeral Reader

namespace Decimal

variable {n places : Nat} {text whole fraction digits behind : List Char}

/-! ## Every digit in its place -/

lemma point_notMem (all : ∀ c ∈ text, c.isDigit = true) : '.' ∉ text := by
  intro member
  cases all '.' member

lemma withPoint_of_digits (all : ∀ c ∈ text, c.isDigit = true) :
    withPoint text = text ++ ['.', '0'] := if_neg (point_notMem all)

lemma withPoint_of_point : withPoint (whole ++ '.' :: fraction) = whole ++ '.' :: fraction :=
  if_pos (by simp)

/-- The places of a decimal are counted by a negative exponent. -/
lemma positional_of_places (n places : Nat) :
    (⟨n, -((places + 1 : Nat) : Int)⟩ : Decimal).positional =
      decimalDigits (n / 10 ^ (places + 1)) ++
        '.' :: padded (places + 1) (decimalDigits (n % 10 ^ (places + 1))) := by
  have none : (-((places + 1 : Nat) : Int)).toNat = 0 := by omega
  have count : (- -((places + 1 : Nat) : Int)).toNat = places + 1 := by omega
  simp only [positional, none, count, Nat.pow_zero, Nat.mul_one]

/-- A number with too few digits for its places has nothing but a zero in front of the point. -/
lemma positional_of_lt (small : n < 10 ^ (places + 1)) :
    (⟨n, -((places + 1 : Nat) : Int)⟩ : Decimal).positional =
      '0' :: '.' :: padded (places + 1) (decimalDigits n) := by
  rw [positional_of_places, Nat.div_eq_of_lt small, Nat.mod_eq_of_lt small]
  rfl

/-- The digits of a number with more digits than places are cut. -/
lemma positional_of_le (large : 10 ^ (places + 1) ≤ n) :
    (⟨n, -((places + 1 : Nat) : Int)⟩ : Decimal).positional =
      (decimalDigits n).take ((decimalDigits n).length - (places + 1)) ++
        '.' :: (decimalDigits n).drop ((decimalDigits n).length - (places + 1)) := by
  have power : 0 < 10 ^ (places + 1) := Nat.pow_pos (by omega)
  have low := length_decimalDigits_le (Nat.succ_pos places) (Nat.mod_lt n power)
  rw [decimalDigits_eq_toDigits] at low
  have cut := toDigits_div_append_mod (Nat.succ_pos places) large
  have width := length_padded low
  rw [positional_of_places, decimalDigits_eq_toDigits, decimalDigits_eq_toDigits,
    decimalDigits_eq_toDigits, ← cut, List.length_append, width, Nat.add_sub_cancel, List.take_left,
    List.drop_left]

/-- Without places there are digits only. -/
lemma fixed_of_natCast (n k : Nat) : (⟨n, k⟩ : Decimal).fixed = decimalDigits (n * 10 ^ k) := by
  simp only [fixed]
  split
  · next zero =>
      rw [zero.1, Nat.zero_mul]
      rfl
  · next notZero =>
      rw [if_neg (by omega)]
      rcases Nat.eq_zero_or_pos k with rfl | positive
      · have point : (((decimalDigits n).length : Int) + (0 : Nat)).toNat =
            (decimalDigits n).length := by omega
        rw [if_neg (by omega), point, List.take_length, List.drop_length, if_pos rfl,
          if_neg (isRun_decimalDigits n).1, List.append_nil, Nat.pow_zero, Nat.mul_one]
      · have zeros : (((decimalDigits n).length : Int) + k - (decimalDigits n).length).toNat = k := by
          omega
        rw [if_pos (by omega), zeros, decimalDigits_mul_pow (by omega)]

/-- With places the point stands among the digits, or in front of them and some zeros. -/
lemma fixed_of_places (n places : Nat) : (⟨n, -((places + 1 : Nat) : Int)⟩ : Decimal).fixed =
    (⟨n, -((places + 1 : Nat) : Int)⟩ : Decimal).positional := by
  have fits : (decimalDigits n).length ≤ places + 1 ↔ n < 10 ^ (places + 1) := by
    rw [decimalDigits_eq_toDigits]
    exact Nat.length_toDigits_le_iff (by omega) (Nat.succ_pos places)
  simp only [fixed]
  rw [if_neg (by omega)]
  rcases Nat.lt_trichotomy (decimalDigits n).length (places + 1) with fewer | same | more
  · have zeros : (-(((decimalDigits n).length : Int) + -((places + 1 : Nat) : Int))).toNat =
        places + 1 - (decimalDigits n).length := by omega
    rw [if_pos (by omega), positional_of_lt (fits.mp fewer.le), zeros]
    rfl
  · have point : (((decimalDigits n).length : Int) + -((places + 1 : Nat) : Int)).toNat = 0 := by
      omega
    rw [if_neg (by omega), if_neg (by omega), positional_of_lt (fits.mp same.le), point,
      List.take_zero, List.drop_zero, if_pos rfl, if_neg (isRun_decimalDigits n).1, padded, same,
      Nat.sub_self]
    rfl
  · have point : (((decimalDigits n).length : Int) + -((places + 1 : Nat) : Int)).toNat =
        (decimalDigits n).length - (places + 1) := by omega
    rw [if_neg (by omega), if_neg (by omega), point, positional_of_le (by omega), if_neg, if_neg]
    · rw [← ne_eq, ← List.length_pos_iff, List.length_drop]
      omega
    · rw [← ne_eq, ← List.length_pos_iff, List.length_take]
      omega

/-- What is written without a point gets one, and else nothing is changed. -/
lemma withPoint_fixed (d : Decimal) : withPoint d.fixed = d.positional := by
  obtain ⟨n, exponent⟩ := d
  rcases lt_or_ge exponent 0 with negative | natural
  · obtain ⟨places, rfl⟩ : ∃ places : Nat, exponent = -((places + 1 : Nat) : Int) :=
      ⟨(-exponent).toNat - 1, by omega⟩
    rw [fixed_of_places, positional_of_places]
    exact withPoint_of_point
  · obtain ⟨k, rfl⟩ := Int.eq_ofNat_of_zero_le natural
    have none : (-(k : Int)).toNat = 0 := by omega
    rw [fixed_of_natCast, withPoint_of_digits (isRun_decimalDigits _).2]
    simp only [positional, none, Int.toNat_natCast]

/-! ## Numerals -/

/-- A numeral with a point is cut at the point and behind the digits that follow it. -/
lemma ofText?_of_point (run : IsRun Char.isDigit whole)
    (all : ∀ c ∈ fraction, c.isDigit = true) (stops : Stops Char.isDigit behind) :
    ofText? (whole ++ '.' :: (fraction ++ behind)) = (exponent? behind).map fun exponent =>
      ⟨value 10 (whole ++ fraction), exponent - fraction.length⟩ := by
  have front : (whole ++ '.' :: (fraction ++ behind)).takeWhile Char.isDigit = whole :=
    takeWhile_append_eq_iff.mpr ⟨run.2, .cons rfl⟩
  have point : (whole ++ '.' :: (fraction ++ behind)).dropWhile Char.isDigit =
      '.' :: (fraction ++ behind) := dropWhile_append_of_stops run.2 (.cons rfl)
  have middle : (fraction ++ behind).takeWhile Char.isDigit = fraction :=
    takeWhile_append_eq_iff.mpr ⟨all, stops⟩
  have some : whole ++ fraction ≠ [] := List.append_ne_nil_of_left_ne_nil run.1 fraction
  simp only [ofText?, front, point, fractionAndRest, middle, dropWhile_append_of_stops all stops,
    if_neg some, decimalValue_eq_value]

/-- A numeral without a point is cut behind its digits. -/
lemma ofText?_of_digits (run : IsRun Char.isDigit whole)
    (stops : Stops (fun c => c.isDigit || c == '.') behind) :
    ofText? (whole ++ behind) = (exponent? behind).map fun exponent => ⟨value 10 whole, exponent⟩ := by
  have noDigit : Stops Char.isDigit behind := stops.mono fun c digit => by rw [digit, Bool.true_or]
  have front : (whole ++ behind).takeWhile Char.isDigit = whole :=
    takeWhile_append_eq_iff.mpr ⟨run.2, noDigit⟩
  have noPoint : fractionAndRest behind = ([], behind) := by
    rw [fractionAndRest]
    rintro more rfl
    cases Stops.cons_iff.mp stops
  simp only [ofText?, front, dropWhile_append_of_stops run.2 noDigit, noPoint, List.append_nil,
    if_neg run.1, decimalValue_eq_value, List.length_nil, Nat.cast_zero, Int.sub_zero]

lemma exponent?_of_digits {negative : Bool} {behind : List Char}
    (split : signAndDigits behind = (negative, digits)) (run : IsRun Char.isDigit digits) :
    exponent? ('e' :: behind) =
      some (if negative then -(value 10 digits : Int) else (value 10 digits : Int)) := by
  have digit : digits.all Char.isDigit := List.all_eq_true.mpr run.2
  simp only [exponent?, split, true_or, ne_eq, run.1, not_false_eq_true, digit, and_self, if_true,
    decimalValue_eq_value]

/-- The exponent that is written behind an `e` is found again. -/
lemma exponent?_of_sign (place : Int) :
    exponent? ('e' :: (if place < 0 then '-' else '+') :: padded 2 (decimalDigits place.natAbs)) =
      some place := by
  have run := isRun_decimalDigits place.natAbs
  have padding : IsRun Char.isDigit (padded 2 (decimalDigits place.natAbs)) :=
    ⟨List.append_ne_nil_of_right_ne_nil _ run.1, isDigit_of_mem_padded run.2⟩
  have valued : value 10 (padded 2 (decimalDigits place.natAbs)) = place.natAbs := by
    rw [value_padded, value_decimalDigits]
  generalize padded 2 (decimalDigits place.natAbs) = digits at padding valued ⊢
  rcases lt_or_ge place 0 with negative | natural
  · have minus : signAndDigits ('-' :: digits) = (true, digits) := rfl
    rw [if_pos negative, exponent?_of_digits minus padding, valued, if_pos rfl,
      Int.ofNat_natAbs_of_nonpos negative.le, Int.neg_neg]
  · have plus : signAndDigits ('+' :: digits) = (false, digits) := rfl
    rw [if_neg (not_lt.mpr natural), exponent?_of_digits plus padding, valued,
      if_neg Bool.false_ne_true, Int.natAbs_of_nonneg natural]

/-- A decimal is found again from its digits and its exponent. -/
lemma ofText?_scientific (d : Decimal) : ofText? d.scientific = some d := by
  have run := isRun_decimalDigits d.digits
  have valued := value_decimalDigits d.digits
  rw [scientific, firstPlace]
  generalize decimalDigits d.digits = digits at run valued ⊢
  cases digits with
  | nil => exact absurd rfl run.1
  | cons first others =>
      obtain ⟨digit, digits⟩ := List.forall_mem_cons.mp run.2
      have front : IsRun Char.isDigit [first] := .singleton digit
      have place : d.exponent + ((first :: others).length : Int) - 1 - others.length =
          d.exponent := by
        rw [List.length_cons]
        omega
      cases others with
      | nil =>
          show ofText? ([first] ++ 'e' :: _) = _
          rw [List.length_nil, Nat.cast_zero, Int.sub_zero] at place
          rw [ofText?_of_digits front (.cons rfl), exponent?_of_sign, Option.map_some, valued, place]
      | cons second rest =>
          show ofText? ([first] ++ '.' :: (second :: rest ++ 'e' :: _)) = _
          rw [ofText?_of_point front digits (.cons rfl), exponent?_of_sign, Option.map_some, place]
          exact congrArg some (congrArg (Decimal.mk · d.exponent) valued)

/-! ## From one notation to another -/

/-- A decimal is written as the numeral with a point that it was read from, if no zero is in front
that could be left out. -/
lemma positional_of_runs (run : IsRun Char.isDigit whole) (run' : IsRun Char.isDigit fraction)
    (proper : whole.head? = some '0' → whole = ['0']) :
    (⟨value 10 (whole ++ fraction), -(fraction.length : Int)⟩ : Decimal).positional =
      whole ++ '.' :: fraction := by
  have power : 0 < 10 ^ fraction.length := Nat.pow_pos (by omega)
  have small := value_lt run'.2
  have upper : value 10 (whole ++ fraction) / 10 ^ fraction.length = value 10 whole := by
    rw [value_append, Nat.mul_comm, Nat.mul_add_div power, Nat.div_eq_of_lt small, Nat.add_zero]
  have lower : value 10 (whole ++ fraction) % 10 ^ fraction.length = value 10 fraction := by
    rw [value_append, Nat.mul_add_mod', Nat.mod_eq_of_lt small]
  obtain ⟨places, count⟩ := Nat.exists_eq_succ_of_ne_zero
    (Nat.ne_of_gt (List.length_pos_iff.mpr run'.1))
  have last := padded_decimalDigits_value run'
  rw [count] at upper lower last ⊢
  rw [positional_of_places, upper, lower, last, decimalDigits_eq_toDigits, toDigits_value run.2,
    withoutZeros_eq_self run.1 proper]

/-- What is written for a decimal in a message stands for the same number, and with every digit in
its place the same is written. -/
lemma exists_ofText?_general (d : Decimal) : ∃ d', ofText? d.general = some d' ∧
    d'.toRat = d.toRat ∧ d'.positional = d.positional := by
  rw [general]
  split
  · obtain ⟨whole, fraction, spelled, run, run', proper, same⟩ := d.exists_positional
    have parsed := ofText?_of_point run run'.2 (.nil : Stops Char.isDigit [])
    have none : exponent? [] = some 0 := rfl
    rw [List.append_nil, none, Option.map_some, Int.zero_sub] at parsed
    refine ⟨_, spelled ▸ parsed, ?_, ?_⟩
    · rw [← same, toRat, zpow_neg, zpow_natCast, div_eq_mul_inv]
    · rw [positional_of_runs run run' proper, spelled]
  · exact ⟨d, ofText?_scientific d, rfl, rfl⟩

end Decimal

/-! ## The spelling of a double -/

namespace Spelling

variable {x : Binary64}

/-- A finite double without a sign is given in a message by its shortest decimal. -/
lemma toList_messageText (finite : x.isFinite = true) (sign : x.negative = false) :
    x.messageText.toList = (Binary64.shortest x.magnitude).general := by
  have bound : x.magnitude < Binary64.infinityMagnitude := of_decide_eq_true finite
  have number : x.isNaN = false := decide_eq_false (Nat.not_lt.mpr bound.le)
  have finite' : x.isInfinite = false := beq_eq_false_iff_ne.mpr bound.ne
  rw [Binary64.messageText, number, finite', sign]
  exact String.toList_ofList

/-- The spelling of a double without a sign, got from any numeral that is read as it: digits with a
point among them and no zero in front that could be left out, which stand for the same number as the
numeral and are read as the double, all of them.  The double's own numeral in messages is one of
those, its number is the shortest decimal that is read as the double, and the spelling that is got
from it is the one that is written. -/
theorem float_inPlaces (finite : x.isFinite = true) (sign : x.negative = false) :
    (∀ (numeral : List Char) (d : Decimal), Decimal.ofText? numeral = some d →
      d.nearestMagnitude = x.magnitude → ∃ whole fraction,
        Decimal.inPlaces? numeral = some (whole ++ '.' :: fraction) ∧
        IsRun Char.isDigit whole ∧ IsRun Char.isDigit fraction ∧
        (whole.head? = some '0' → whole = ['0']) ∧
        (value 10 (whole ++ fraction) / 10 ^ fraction.length : ℚ) = d.toRat ∧
        Reads (Reader.float : Reader Furthest Datum) (whole ++ '.' :: fraction) [] (.float x)) ∧
    ∃ d text, Decimal.ofText? x.messageText.toList = some d ∧
      d.nearestMagnitude = x.magnitude ∧ d.toRat = (Binary64.shortest x.magnitude).toRat ∧
      (∀ d' : Decimal, d'.nearestMagnitude = x.magnitude →
        (decimalDigits (Binary64.shortest x.magnitude).digits).length ≤
          (decimalDigits d'.digits).length) ∧
      Decimal.inPlaces? x.messageText.toList = some text ∧ float x = .ok text := by
  have bound : x.magnitude < Binary64.infinityMagnitude := of_decide_eq_true finite
  constructor
  · intro numeral d parsed reads
    obtain ⟨whole, fraction, spelled, run, run', proper, same⟩ := d.exists_positional
    refine ⟨whole, fraction, ?_, run, run', proper, same, reads_float.mpr ⟨whole, fraction, rfl, run,
      run', Stops.nil, ?_⟩⟩
    · rw [Decimal.inPlaces?, parsed, Option.map_some, Decimal.withPoint_fixed, spelled]
    · rw [Binary64.ofDecimal_eq sign reads same]
  · obtain ⟨d, parsed, same, spelled⟩ := (Binary64.shortest x.magnitude).exists_ofText?_general
    have message := toList_messageText finite sign
    have reads : d.nearestMagnitude = x.magnitude :=
      (Decimal.nearestMagnitude_congr same).trans (Binary64.nearestMagnitude_shortest bound)
    refine ⟨d, x.positional, message ▸ parsed, reads, same,
      fun d' reads' => Binary64.length_shortest_le reads' bound, ?_, if_pos ⟨finite, sign⟩⟩
    rw [message, Decimal.inPlaces?, parsed, Option.map_some, Decimal.withPoint_fixed, spelled]
    rfl

/-- A number of twenty-three digits, from a numeral of five characters. -/
theorem float_inPlaces_exponent :
    (Binary64.ofNat (10 ^ 22)).isFinite = true ∧ (Binary64.ofNat (10 ^ 22)).negative = false ∧
      Decimal.ofText? "1e+22".toList = some ⟨1, 22⟩ ∧
      (⟨1, 22⟩ : Decimal).nearestMagnitude = (Binary64.ofNat (10 ^ 22)).magnitude ∧
      Reads (Reader.float : Reader Furthest Datum) "10000000000000000000000.0".toList []
        (.float (.ofNat (10 ^ 22))) := by
  have finite : (Binary64.ofNat (10 ^ 22)).isFinite = true := by decide +kernel
  have parsed : Decimal.ofText? "1e+22".toList = some ⟨1, 22⟩ := by decide +kernel
  have reads : (⟨1, 22⟩ : Decimal).nearestMagnitude = (Binary64.ofNat (10 ^ 22)).magnitude := by
    decide +kernel
  have spelled : Decimal.inPlaces? "1e+22".toList =
      some "10000000000000000000000.0".toList := by decide +kernel
  obtain ⟨whole, fraction, spelled', -, -, -, -, back⟩ :=
    (float_inPlaces finite rfl).1 _ _ parsed reads
  have same : "10000000000000000000000.0".toList = whole ++ '.' :: fraction :=
    Option.some.inj (spelled.symm.trans spelled')
  exact ⟨finite, rfl, parsed, reads, same ▸ back⟩

end Spelling

end SExpr
