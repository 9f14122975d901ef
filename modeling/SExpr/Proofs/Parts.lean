import SExpr.Proofs.Acceptance
import SExpr.Proofs.Fallible

/-!
# Parts of complex numbers

A part of a complex number is a double, but it may be written without a point.  Such digits are
converted to an integer of any size first, and then the integer to a double; if it is too large for
a finite one, that breaks down and infinity is taken instead.  With a point, digits are rounded as
they stand.

The two ways have nothing in common but what they round, and that is the same number if zeros are
all that stands behind the point.  So they agree to the last bit, at halfway cases and beyond the
largest double as well, and the part is what it would be read as by itself.

* `Binary64.ofDecimal_zeros` — zeros behind the point make no difference.
* `Fallible.read_of_lexeme` — a literal alone is read without a breakdown.
* `Fallible.read_complex` — the four ways to write a complex number of whole parts.
-/

namespace SExpr

open Grammar Reader

variable {digits zeros text left right : List Char} {datum : Datum}

lemma Numeral.value_zeros (run : IsRun (· == '0') zeros) : value 10 zeros = 0 := by
  have all : zeros = List.replicate zeros.length '0' :=
    List.eq_replicate_length.mpr fun c member => beq_iff_eq.mp (run.2 c member)
  rw [all, value_replicate]

/-- With zeros behind the point the same is rounded as without a point. -/
lemma Binary64.ofDecimal_zeros (digits : List Char) (run : IsRun (· == '0') zeros) :
    ofDecimal digits zeros = ofNat (Numeral.value 10 digits) := by
  have power : 0 < 10 ^ zeros.length := Nat.pow_pos (by omega)
  have power' : ((10 ^ zeros.length : Nat) : ℚ) ≠ 0 := Nat.cast_ne_zero.mpr power.ne'
  rw [ofDecimal, Numeral.decimalValue_eq_value, Numeral.value_append,
    Numeral.value_zeros run, Nat.add_zero]
  refine nearest_congr power Nat.one_pos ?_
  rw [Nat.cast_mul, mul_div_cancel_right₀ _ power', Nat.cast_one, div_one]

lemma isRun_digits_of_zeros (run : IsRun (· == '0') zeros) : IsRun Char.isDigit zeros :=
  ⟨run.1, fun c member => by rw [beq_iff_eq.mp (run.2 c member)]; rfl⟩

/-- A part without a fraction is written in one of two ways. -/
lemma Grammar.Part.of_mem (run : IsRun Char.isDigit digits) (zero : IsRun (· == '0') zeros)
    (either : text ∈ [digits, digits ++ '.' :: zeros]) :
    Grammar.Part text (.ofNat (Numeral.value 10 digits)) := by
  rcases List.mem_pair.mp either with rfl | rfl
  · exact .whole run
  · rw [← Binary64.ofDecimal_zeros digits zero]
    exact .decimal run (isRun_digits_of_zeros zero)

/-- A literal alone is read whole, by a strict reading and by others, and without a breakdown. -/
lemma Fallible.read_of_lexeme (options : Options) (lexeme : Lexeme text datum) :
    Fallible.read options (String.ofList text) = .ok (.ok (datum, text.length)) := by
  have found : Reads (Literal.firstIn Literal.inOrder : Reader Furthest Datum) text [] datum :=
    .of_lexeme lexeme Stops.nil
  have whole : Entry.expression.read options (String.ofList (text ++ [])) = .ok (datum, text.length) :=
    Entry.read_of_literal (fun _ => rfl) found
  rw [List.append_nil] at whole
  rw [Fallible.read_eq, whole]

/-- A float without a fraction is the double nearest to its digits. -/
lemma Fallible.read_zeros (options : Options) (run : IsRun Char.isDigit digits)
    (zero : IsRun (· == '0') zeros) :
    Fallible.read options (String.ofList (digits ++ '.' :: zeros)) =
      .ok (.ok (.float (.ofNat (Numeral.value 10 digits)), digits.length + zeros.length + 1)) := by
  have lexeme : Lexeme (digits ++ '.' :: zeros) (.float (.ofDecimal digits zeros)) :=
    .float run (isRun_digits_of_zeros zero)
  rw [read_of_lexeme options lexeme, Binary64.ofDecimal_zeros digits zero, List.length_append]
  rfl

/-- A complex number whose parts have no fraction is the same in whichever way they are written: each
part is the double nearest to its digits, which is what it is read as by itself with a point.
Infinity is no exception. -/
theorem Fallible.read_complex (options : Options) {real imaginary zeros zeros' : List Char}
    (run : IsRun Char.isDigit real) (run' : IsRun Char.isDigit imaginary)
    (zero : IsRun (· == '0') zeros) (zero' : IsRun (· == '0') zeros') :
    (∀ left ∈ [real, real ++ '.' :: zeros], ∀ right ∈ [imaginary, imaginary ++ '.' :: zeros'],
      Fallible.read options (String.ofList (left ++ '+' :: (right ++ ['i']))) =
        .ok (.ok (.complex (.ofNat (Numeral.value 10 real)) (.ofNat (Numeral.value 10 imaginary)),
          left.length + right.length + 2))) ∧
      Fallible.read options (String.ofList (real ++ '.' :: zeros)) =
        .ok (.ok (.float (.ofNat (Numeral.value 10 real)), real.length + zeros.length + 1)) ∧
      Fallible.read options (String.ofList (imaginary ++ '.' :: zeros')) =
        .ok (.ok (.float (.ofNat (Numeral.value 10 imaginary)),
          imaginary.length + zeros'.length + 1)) := by
  refine ⟨fun left first right second => ?_, read_zeros options run zero,
    read_zeros options run' zero'⟩
  have lexeme : Lexeme (left ++ '+' :: (right ++ ['i'])) (.complex _ _) :=
    .complex (.of_mem run zero first) (.of_mem run' zero' second)
  rw [read_of_lexeme options lexeme, List.length_append, List.length_cons, List.length_append]
  rfl

/-- A part of four hundred and one digits is infinity, and the other part is written with a point. -/
theorem Fallible.read_complex_overflow :
    Fallible.read {} (String.ofList
        ('1' :: List.replicate 400 '0' ++ '+' :: (['2', '.', '0', '0'] ++ ['i']))) =
      .ok (.ok (.complex (.infinity false) (.ofNat 2), 407)) ∧
    Fallible.read {} (String.ofList ('1' :: List.replicate 400 '0' ++ ['.', '0'])) =
      .ok (.ok (.float (.infinity false), 403)) := by
  have one : IsRun (· == '0') ['0'] := .singleton rfl
  have two : IsRun (· == '0') ['0', '0'] := one.append one.2
  have some : List.replicate 400 '0' ≠ [] :=
    List.ne_nil_of_length_pos (by rw [List.length_replicate]; omega)
  have many : IsRun (· == '0') (List.replicate 400 '0') :=
    ⟨some, fun c member => beq_iff_eq.mpr (List.eq_of_mem_replicate member)⟩
  have run : IsRun Char.isDigit ('1' :: List.replicate 400 '0') :=
    (IsRun.singleton rfl).append (isRun_digits_of_zeros many).2
  have large : 2 ^ 1024 - 2 ^ 970 ≤ Numeral.value 10 ('1' :: List.replicate 400 '0') := by
    decide +kernel
  have infinite := Binary64.eq_infinity ((Binary64.isInfinite_ofNat_iff _).mpr large)
  obtain ⟨read, float, -⟩ :=
    Fallible.read_complex {} run (.singleton rfl : IsRun Char.isDigit ['2']) one two
  have complex := read _ List.mem_cons_self ['2', '.', '0', '0'] (by decide)
  rw [infinite, List.length_cons, List.length_replicate] at complex float
  exact ⟨complex, float⟩

end SExpr
