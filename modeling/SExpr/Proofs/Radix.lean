import SExpr.Proofs.Acceptance
import SExpr.Proofs.Fallible

/-!
# Integers in every base

A number may be written in four bases, in each with zeros in front and, where letters are digits,
in capitals or not.  All these numerals are read as the number, whatever stands behind them, unless
that is one more digit.  A tag is a letter, and so are some digits, so nothing of this goes without
saying: the text would also do for an atom.

* `Radix.Spells` — the numerals of a number in a base, from its digits.
* `Radix.spells_iff` — these are the runs of digits that stand for the number.
* `Entry.read_spelled` — a tagged numeral is read as its number, and a decimal one without its tag
  too.
-/

namespace SExpr

open Grammar Reader

namespace Numeral.Radix

variable {radix : Radix} {c : Char} {d n : Nat} {digits : List Char}

/-- A numeral of a number: its digits behind any number of zeros, each letter in either case. -/
def Spells (radix : Radix) (digits : List Char) (n : Nat) : Prop :=
  ∃ zeros, digits.map Char.toLower = List.replicate zeros '0' ++ Nat.toDigits radix.base n

/-! ## Runs of digits -/

/-- It is all one which characters a numeral consists of, as long as they stand for the same. -/
lemma value_map_of_eq {base : Nat} {f : Char → Char}
    (same : ∀ c ∈ digits, digitValue (f c) = digitValue c) :
    Numeral.value base (digits.map f) = Numeral.value base digits := by
  induction digits with
  | nil => rfl
  | cons c rest ih =>
      obtain ⟨first, others⟩ := List.forall_mem_cons.mp same
      rw [List.map_cons, value_cons, value_cons, first, ih others, List.length_map]

lemma exists_of_mem_toDigits {base : Nat} (several : 1 < base) (member : c ∈ Nat.toDigits base n) :
    ∃ d < base, c = Nat.digitChar d := by
  induction n using Nat.strongRecOn with
  | ind n ih =>
      rw [Nat.toDigits_eq_if several] at member
      split at member
      · next small => exact ⟨n, small, List.mem_singleton.mp member⟩
      · next large =>
          rcases List.mem_append.mp member with upper | last
          · exact ih _ (Nat.div_lt_self (by omega) several) upper
          · exact ⟨n % base, Nat.mod_lt n (by omega), List.mem_singleton.mp last⟩

lemma toNat_lt_of_toLower (small : c.toLower.toNat < 128) : c.toNat < 128 := by
  by_cases upper : c.isUpper = true
  · have bounds := Unicode.isUpper_iff.mp upper
    omega
  · rwa [Unicode.toLower_eq_self upper] at small

/-- What is a digit of the radix in small letters is one in capitals, and of the same number. -/
lemma isDigit_of_toLower (small : d < radix.base) (same : c.toLower = Nat.digitChar d) :
    radix.isDigit c = true ∧ digitValue c = d := by
  have table : ∀ c : Char, c.toNat < 128 → ∀ d < radix.base, c.toLower = Nat.digitChar d →
      radix.isDigit c = true ∧ digitValue c = d :=
    forall_ascii (by cases radix <;> decide +kernel)
  have digits : ∀ d < 16, (Nat.digitChar d).toNat < 128 := by decide
  have ascii : c.toNat < 128 := by
    refine toNat_lt_of_toLower ?_
    rw [same]
    exact digits d (Nat.lt_of_lt_of_le small radix.base_bounds.2)
  exact table c ascii d small same

/-- The numerals of a number are the runs of digits that stand for it. -/
lemma spells_iff : radix.Spells digits n ↔
    IsRun radix.isDigit digits ∧ Numeral.value radix.base digits = n := by
  have base := radix.base_bounds
  constructor
  · rintro ⟨zeros, same⟩
    have each : ∀ c ∈ digits, radix.isDigit c = true ∧ digitValue c = digitValue c.toLower := by
      intro c member
      have lower : c.toLower ∈ List.replicate zeros '0' ++ Nat.toDigits radix.base n := by
        rw [← same]
        exact List.mem_map_of_mem member
      obtain ⟨d, small, digit⟩ : ∃ d < radix.base, c.toLower = Nat.digitChar d := by
        rcases List.mem_append.mp lower with zero | digit
        · exact ⟨0, by omega, List.eq_of_mem_replicate zero⟩
        · exact exists_of_mem_toDigits base.1 digit
      obtain ⟨isDigit, value⟩ := isDigit_of_toLower small digit
      exact ⟨isDigit, by rw [value, digit, digitValue_digitChar (by omega)]⟩
    refine ⟨⟨?_, fun c member => (each c member).1⟩, ?_⟩
    · rintro rfl
      exact Nat.toDigits_ne_nil (List.append_eq_nil_iff.mp same.symm).2
    · rw [← value_map_of_eq fun c member => ((each c member).2).symm, same,
        value_replicate_append, value_toDigits base.1 base.2]
  · rintro ⟨run, rfl⟩
    rw [Spells, toDigits_value run.2]
    exact exists_replicate_withoutZeros (by simpa using run.1)

end Numeral.Radix

/-! ## Reading them -/

/-- A numeral behind its tag is converted to its number without a breakdown and read as such, up to
its end, whatever follows it other than one more digit of the base.  Digits in base ten are read as
the same integer without the tag, if what follows does not make another number of them. -/
theorem Entry.read_spelled (options : Options) {radix : Numeral.Radix} {n : Nat}
    {digits rest : List Char} (spells : radix.Spells digits n) (stops : Stops radix.isDigit rest)
    (whole : options.strict = true → rest = []) :
    Conversion.tagged radix digits = .ok n ∧
      Entry.expression.read options (String.ofList ('#' :: tag radix :: digits ++ rest)) =
        .ok (.integer n, digits.length + 2) ∧
      (radix = .decimal → Stops goesOnDigits rest →
        Entry.expression.read options (String.ofList (digits ++ rest)) =
          .ok (.integer n, digits.length)) := by
  obtain ⟨run, rfl⟩ := Numeral.Radix.spells_iff.mp spells
  refine ⟨?_, read_of_literal whole (.of_radixInteger run stops), ?_⟩
  · rw [Conversion.tagged_eq run, Numeral.Radix.value_eq]
  · rintro rfl ends
    exact read_of_literal whole (.of_digits run ends)

/-- Zeros in front and a capital, and a letter behind that goes on atoms and numbers in base ten,
but not those in base sixteen; and a number in base ten with and without its tag. -/
theorem Entry.read_spelled_tags :
    Entry.expression.read {} "#x00dFgh" = .ok (.integer 223, 6) ∧
      Entry.expression.read {} "#d07(" = .ok (.integer 7, 4) ∧
      Entry.expression.read {} "07(" = .ok (.integer 7, 2) := by
  have hexadecimal : Numeral.Radix.hexadecimal.Spells ['0', '0', 'd', 'F'] 223 := ⟨2, by decide⟩
  have decimal : Numeral.Radix.decimal.Spells ['0', '7'] 7 := ⟨1, by decide⟩
  have letters : Stops Numeral.Radix.hexadecimal.isDigit ['g', 'h'] := .cons rfl
  have parenthesis : Stops Numeral.Radix.decimal.isDigit ['('] := .cons rfl
  obtain ⟨-, capital, -⟩ := Entry.read_spelled {} hexadecimal letters nofun
  obtain ⟨-, tagged, untagged⟩ := Entry.read_spelled {} decimal parenthesis nofun
  exact ⟨capital, tagged, untagged rfl (.cons rfl)⟩

end SExpr
