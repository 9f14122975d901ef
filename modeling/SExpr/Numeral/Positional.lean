/-!
# Positional numerals

The number that a run of digits stands for, in any base.  The most significant digit comes
first, and leading zeros change nothing.

* `value_append` — a numeral may be cut anywhere: the left part counts for as many powers of the
  base as there are digits to its right.
-/

namespace SExpr

/- Powers of natural numbers are those of core arithmetic, also where algebra offers its own. -/
attribute [scoped instance (2000)] instPowNat

end SExpr

namespace SExpr.Numeral

/-- The number a digit stands for; letters of either case go on after nine. -/
def digitValue (c : Char) : Nat :=
  if c.isDigit then c.toNat - '0'.toNat
  else if c.isLower then c.toNat - 'a'.toNat + 10
  else c.toNat - 'A'.toNat + 10

/-- The number that a run of digits stands for. -/
def value (base : Nat) (digits : List Char) : Nat :=
  digits.foldl (fun number digit => number * base + digitValue digit) 0

/-- Digits read after the number `start` shift it by one place each. -/
theorem foldl_value (base : Nat) (digits : List Char) :
    ∀ start : Nat, digits.foldl (fun number digit => number * base + digitValue digit) start =
      start * base ^ digits.length + value base digits := by
  induction digits with
  | nil => simp [value]
  | cons digit rest ih =>
    intro start
    simp only [value, List.foldl_cons, List.length_cons]
    rw [ih, ih (0 * base + _), Nat.pow_succ, Nat.zero_mul, Nat.zero_add, Nat.add_mul,
      Nat.mul_assoc, Nat.mul_comm base, Nat.add_assoc]

@[simp] theorem value_nil (base : Nat) : value base [] = 0 := rfl

theorem value_append (base : Nat) (high low : List Char) :
    value base (high ++ low) = value base high * base ^ low.length + value base low := by
  rw [value, List.foldl_append, foldl_value]
  rfl

end SExpr.Numeral
