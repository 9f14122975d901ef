import Mathlib.Tactic.Lemma
import SExpr.Numeral.Radix

/-!
# The digits of a number

In each base a number has one numeral that does not start with a zero it could do without.  Zeros
in front of a numeral and the case of its letters are all in which it can differ from the digits of
the number that it stands for.

* `value_toDigits` — the digits of a number stand for it.
* `Radix.toDigits_append` — digits behind those of a positive number are again the digits of a
  number.  This is what long numerals are put together by.
* `Radix.toDigits_value` — the digits of the number that a numeral stands for are those of the
  numeral, in small letters and without the zeros in front.
-/

namespace SExpr.Numeral

/-! ## From numbers to digits -/

lemma digitValue_digitChar : ∀ {d : Nat}, d < 16 → digitValue (Nat.digitChar d) = d := by decide

lemma value_concat (base : Nat) (digits : List Char) (c : Char) :
    value base (digits ++ [c]) = value base digits * base + digitValue c := by
  rw [value, List.foldl_append]
  rfl

lemma value_cons (base : Nat) (c : Char) (digits : List Char) :
    value base (c :: digits) = digitValue c * base ^ digits.length + value base digits := by
  rw [value, List.foldl_cons, foldl_value, Nat.zero_mul, Nat.zero_add]

/-- The digits of a number stand for it. -/
lemma value_toDigits {base : Nat} (several : 1 < base) (known : base ≤ 16) (n : Nat) :
    value base (Nat.toDigits base n) = n := by
  induction n using Nat.strongRecOn with
  | ind n ih =>
      rw [Nat.toDigits_eq_if several]
      split
      · next small =>
          show 0 * base + digitValue n.digitChar = n
          rw [digitValue_digitChar (by omega), Nat.zero_mul, Nat.zero_add]
      · next large =>
          have less : n / base < n := Nat.div_lt_self (by omega) several
          have last : n % base < base := Nat.mod_lt n (by omega)
          rw [value_concat, ih _ less, digitValue_digitChar (by omega), Nat.mul_comm]
          exact Nat.div_add_mod n base

/-- No zero stands in front of a positive number. -/
lemma head?_toDigits_ne {base n : Nat} (several : 1 < base) (positive : 0 < n) :
    (Nat.toDigits base n).head? ≠ some '0' := by
  induction n using Nat.strongRecOn with
  | ind n ih =>
      rw [Nat.toDigits_eq_if several]
      split
      · rw [List.head?_cons, ne_eq, Option.some.injEq, Nat.digitChar_eq_zero]
        omega
      · next large =>
          have less : n / base < n := Nat.div_lt_self positive several
          have upper : 0 < n / base := Nat.div_pos (by omega) (by omega)
          have first : (Nat.toDigits base (n / base)).head?.isSome := by
            rw [List.isSome_head?]
            exact Nat.toDigits_ne_nil
          rw [List.head?_append, Option.or_of_isSome first]
          exact ih _ less upper

/-! ## Zeros in front -/

/-- Zeros in front of a numeral change nothing. -/
lemma value_replicate_append (base zeros : Nat) (digits : List Char) :
    value base (List.replicate zeros '0' ++ digits) = value base digits := by
  induction zeros with
  | zero => rfl
  | succ zeros ih =>
      rw [List.replicate_succ, List.cons_append, value_cons, ih]
      exact (congrArg (· + _) (Nat.zero_mul _)).trans (Nat.zero_add _)

lemma value_replicate (base zeros : Nat) : value base (List.replicate zeros '0') = 0 := by
  rw [← List.append_nil (List.replicate _ _), value_replicate_append, value_nil]

/-- A numeral without the zeros in front; of a numeral that is all zeros, one is left. -/
def withoutZeros (digits : List Char) : List Char :=
  match digits.dropWhile (· == '0') with
  | [] => ['0']
  | significant => significant

lemma withoutZeros_zero_cons (digits : List Char) :
    withoutZeros ('0' :: digits) = withoutZeros digits := rfl

lemma withoutZeros_cons_of_ne {c : Char} (other : c ≠ '0') (digits : List Char) :
    withoutZeros (c :: digits) = c :: digits := by
  rw [withoutZeros, List.dropWhile_cons_of_neg (by simpa using other)]

/-- If no zero in front could be left out, none is. -/
lemma withoutZeros_eq_self {digits : List Char} (nonempty : digits ≠ [])
    (proper : digits.head? = some '0' → digits = ['0']) : withoutZeros digits = digits := by
  cases digits with
  | nil => exact absurd rfl nonempty
  | cons c rest =>
      by_cases zero : c = '0'
      · rw [proper (congrArg some zero)]
        rfl
      · exact withoutZeros_cons_of_ne zero rest

/-- Nothing but zeros is left out. -/
lemma exists_replicate_withoutZeros {digits : List Char} (some : digits ≠ []) :
    ∃ zeros, digits = List.replicate zeros '0' ++ withoutZeros digits := by
  induction digits with
  | nil => exact absurd rfl some
  | cons c rest ih =>
      by_cases zero : c = '0'
      · subst zero
        rw [withoutZeros_zero_cons]
        cases rest with
        | nil => exact ⟨0, rfl⟩
        | cons d rest =>
            obtain ⟨zeros, split⟩ := ih (List.cons_ne_nil d rest)
            exact ⟨zeros + 1, congrArg ('0' :: ·) split⟩
      · exact ⟨0, (withoutZeros_cons_of_ne zero rest).symm⟩

/-! ## The digits of a radix -/

/-- To know all characters of ASCII, go through their numbers. -/
lemma forall_ascii {P : Char → Prop} (table : ∀ n < 128, P (Char.ofNat n)) :
    ∀ c : Char, c.toNat < 128 → P c := by
  intro c small
  have holds := table c.toNat small
  rwa [Char.ofNat_toNat] at holds

lemma toNat_lt_of_le {c d : Char} (below : c ≤ d) (small : d.toNat < 128) : c.toNat < 128 :=
  Nat.lt_of_le_of_lt (UInt32.le_iff_toNat_le.mp below) small

namespace Radix

variable {radix : Radix} {c : Char} {digits : List Char}

lemma base_bounds (radix : Radix) : 1 < radix.base ∧ radix.base ≤ 16 := by
  cases radix <;> decide

lemma toNat_lt_of_isDigit (digit : radix.isDigit c = true) : c.toNat < 128 := by
  have decimal : c.isDigit = true → c.toNat < 128 := fun digit => by
    have below : c ≤ '9' := of_decide_eq_true (Bool.and_eq_true_iff.mp digit).2
    exact toNat_lt_of_le below (by decide)
  cases radix with
  | binary =>
      simp only [isDigit, Bool.or_eq_true, beq_iff_eq] at digit
      rcases digit with rfl | rfl <;> decide
  | octal =>
      simp only [isDigit, Bool.and_eq_true, decide_eq_true_eq] at digit
      exact toNat_lt_of_le digit.2 (by decide)
  | decimal => exact decimal digit
  | hexadecimal =>
      simp only [isDigit, Bool.or_eq_true, Bool.and_eq_true, decide_eq_true_eq] at digit
      rcases digit with (digit | ⟨-, below⟩) | ⟨-, below⟩
      · exact decimal digit
      · exact toNat_lt_of_le below (by decide)
      · exact toNat_lt_of_le below (by decide)

/-- A digit stands for less than the base, it is the digit of that number up to its case, and zero
has no other digit. -/
lemma of_isDigit (digit : radix.isDigit c = true) : digitValue c < radix.base ∧
    Nat.digitChar (digitValue c) = c.toLower ∧ (c ≠ '0' → 0 < digitValue c) := by
  have table : ∀ c : Char, c.toNat < 128 → radix.isDigit c = true → digitValue c < radix.base ∧
      Nat.digitChar (digitValue c) = c.toLower ∧ (c ≠ '0' → 0 < digitValue c) :=
    forall_ascii (by cases radix <;> decide +kernel)
  exact table c (toNat_lt_of_isDigit digit) digit

lemma toLower_ne_zero (digit : radix.isDigit c = true) (other : c ≠ '0') : c.toLower ≠ '0' := by
  obtain ⟨-, same, positive⟩ := of_isDigit digit
  rw [← same, ne_eq, Nat.digitChar_eq_zero]
  exact Nat.ne_of_gt (positive other)

/-- So many digits stand for less than that power of the base. -/
lemma value_lt (all : ∀ c ∈ digits, radix.isDigit c = true) :
    Numeral.value radix.base digits < radix.base ^ digits.length := by
  induction digits with
  | nil => exact Nat.one_pos
  | cons c rest ih =>
      obtain ⟨digit, others⟩ := List.forall_mem_cons.mp all
      have first := Nat.mul_le_mul_right (radix.base ^ rest.length)
        (Nat.succ_le_of_lt (of_isDigit digit).1)
      have lower := ih others
      rw [Nat.succ_mul] at first
      rw [value_cons, List.length_cons, Nat.pow_succ, Nat.mul_comm (radix.base ^ _)]
      omega

/-! ## From digits to numbers and back -/

/-- Digits behind those of a positive number are the digits of a number. -/
lemma toDigits_append (all : ∀ c ∈ digits, radix.isDigit c = true) :
    ∀ {high : Nat}, 0 < high → Nat.toDigits radix.base high ++ digits.map Char.toLower =
      Nat.toDigits radix.base
        (high * radix.base ^ digits.length + Numeral.value radix.base digits) := by
  have base := radix.base_bounds
  induction digits with
  | nil =>
      intro high _
      rw [List.map_nil, List.append_nil, List.length_nil, Nat.pow_zero, Nat.mul_one, value_nil,
        Nat.add_zero]
  | cons c rest ih =>
      intro high positive
      obtain ⟨digit, others⟩ := List.forall_mem_cons.mp all
      obtain ⟨less, same, -⟩ := of_isDigit digit
      have longer : Nat.toDigits radix.base high ++ [c.toLower] =
          Nat.toDigits radix.base (high * radix.base + digitValue c) := by
        rw [← same, ← Nat.toDigits_of_lt_base less, Nat.mul_comm]
        exact Nat.toDigits_append_toDigits base.1 positive less
      have more : 0 < high * radix.base + digitValue c :=
        Nat.add_pos_left (Nat.mul_pos positive (by omega)) _
      rw [List.map_cons, List.append_cons, longer, ih others more, value_cons, List.length_cons,
        Nat.pow_succ, Nat.add_mul, Nat.mul_assoc, Nat.mul_comm radix.base, Nat.add_assoc]

/-- The digits of the number that a numeral stands for are the numeral's own. -/
lemma toDigits_value (all : ∀ c ∈ digits, radix.isDigit c = true) :
    Nat.toDigits radix.base (Numeral.value radix.base digits) =
      withoutZeros (digits.map Char.toLower) := by
  induction digits with
  | nil => exact Nat.toDigits_zero _
  | cons c rest ih =>
      obtain ⟨digit, others⟩ := List.forall_mem_cons.mp all
      obtain ⟨less, same, positive⟩ := of_isDigit digit
      by_cases zero : c = '0'
      · subst zero
        have value : Numeral.value radix.base ('0' :: rest) = Numeral.value radix.base rest :=
          value_replicate_append radix.base 1 rest
        rw [value, ih others, List.map_cons]
        exact (withoutZeros_zero_cons _).symm
      · rw [value_cons, ← toDigits_append others (positive zero), Nat.toDigits_of_lt_base less, same,
          List.map_cons, withoutZeros_cons_of_ne (toLower_ne_zero digit zero)]
        rfl

end Radix

/-! ## Decimal digits -/

variable {digits : List Char}

/-- Decimal digits have no case. -/
lemma map_toLower_of_isDigit (all : ∀ c ∈ digits, c.isDigit = true) :
    digits.map Char.toLower = digits := by
  have table : ∀ c : Char, c.toNat < 128 → c.isDigit = true → c.toLower = c :=
    forall_ascii (by decide +kernel)
  have same : ∀ c ∈ digits, c.toLower = id c := by
    intro c member
    have digit : Radix.decimal.isDigit c = true := all c member
    exact table c (Radix.toNat_lt_of_isDigit digit) digit
  rw [List.map_congr_left same, List.map_id]

lemma value_lt (all : ∀ c ∈ digits, c.isDigit = true) : value 10 digits < 10 ^ digits.length := by
  have run : ∀ c ∈ digits, Radix.decimal.isDigit c = true := all
  exact Radix.value_lt run

lemma toDigits_append (all : ∀ c ∈ digits, c.isDigit = true) {high : Nat} (positive : 0 < high) :
    Nat.toDigits 10 high ++ digits =
      Nat.toDigits 10 (high * 10 ^ digits.length + value 10 digits) := by
  have run : ∀ c ∈ digits, Radix.decimal.isDigit c = true := all
  have whole := Radix.toDigits_append run positive
  rwa [map_toLower_of_isDigit all] at whole

lemma toDigits_value (all : ∀ c ∈ digits, c.isDigit = true) :
    Nat.toDigits 10 (value 10 digits) = withoutZeros digits := by
  have run : ∀ c ∈ digits, Radix.decimal.isDigit c = true := all
  have whole := Radix.toDigits_value run
  rwa [map_toLower_of_isDigit all] at whole

end SExpr.Numeral
