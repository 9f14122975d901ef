import SExpr.Proofs.Grammar
import SExpr.Reader.Number

/-!
# Finding numbers

All numbers but those with a tag start with a run of digits and are told apart by what follows it.

* `reads_plainInteger`, `reads_float`, `reads_ratio` — what each of these readers finds.
* `lexeme_of_reads_complex`, `reads_complex` — a complex number is found whatever stands behind it.
-/

namespace SExpr

open Grammar

namespace Reader

variable {L : Type} [Log L]

lemma reads_natural {front rest : List Char} {n : Nat} :
    Reads (natural : Reader L Nat) front rest n ↔
      IsRun Char.isDigit front ∧ Stops Char.isDigit rest ∧ n = Numeral.value 10 front := by
  simp only [natural, reads_bind, reads_digits, reads_pure]
  constructor
  · rintro ⟨_, digits, _, rfl, ⟨rfl, run, stops⟩, rfl, rfl⟩
    rw [List.append_nil, Numeral.decimalValue_eq_value]
    exact ⟨run, stops, rfl⟩
  · rintro ⟨run, stops, rfl⟩
    exact ⟨front, front, [], by simp, ⟨rfl, run, stops⟩, rfl,
      (Numeral.decimalValue_eq_value front).symm⟩

lemma reads_plainInteger {front rest : List Char} {datum : Datum} :
    Reads (plainInteger : Reader L Datum) front rest datum ↔
      IsRun Char.isDigit front ∧ Stops Char.isDigit rest ∧
        datum = .integer (Numeral.value 10 front) := by
  simp only [plainInteger, reads_bind, reads_natural, reads_pure]
  constructor
  · rintro ⟨_, _, _, rfl, ⟨run, stops, rfl⟩, rfl, rfl⟩
    rw [List.append_nil]
    exact ⟨run, stops, rfl⟩
  · rintro ⟨run, stops, rfl⟩
    exact ⟨_, front, [], by simp, ⟨run, stops, rfl⟩, rfl, rfl⟩

lemma reads_decimal {front rest : List Char} {x : Binary64} :
    Reads (decimal : Reader L Binary64) front rest x ↔
      ∃ whole fraction, front = whole ++ '.' :: fraction ∧ IsRun Char.isDigit whole ∧
        IsRun Char.isDigit fraction ∧ Stops Char.isDigit rest ∧
        x = .ofDecimal whole fraction := by
  simp only [decimal, reads_bind, reads_digits, reads_token, reads_pure]
  constructor
  · rintro ⟨_, whole, _, rfl, ⟨rfl, run, -⟩, _, _, _, rfl, rfl, _, fraction, _, rfl,
      ⟨rfl, run', stops⟩, rfl, rfl⟩
    exact ⟨_, _, by simp, run, run', stops, rfl⟩
  · rintro ⟨whole, fraction, rfl, run, run', stops, rfl⟩
    exact ⟨whole, whole, '.' :: fraction, rfl, ⟨rfl, run, Stops.cons rfl⟩, (), ['.'], fraction,
      rfl, rfl, fraction, fraction, [], by simp, ⟨rfl, run', stops⟩, rfl, rfl⟩

lemma reads_float {front rest : List Char} {datum : Datum} :
    Reads (float : Reader L Datum) front rest datum ↔
      ∃ whole fraction, front = whole ++ '.' :: fraction ∧ IsRun Char.isDigit whole ∧
        IsRun Char.isDigit fraction ∧ Stops Char.isDigit rest ∧
        datum = .float (.ofDecimal whole fraction) := by
  simp only [float, reads_bind, reads_decimal, reads_pure]
  constructor
  · rintro ⟨_, _, _, rfl, ⟨whole, fraction, rfl, run, run', stops, rfl⟩, rfl, rfl⟩
    exact ⟨whole, fraction, by simp, run, run', stops, rfl⟩
  · rintro ⟨whole, fraction, rfl, run, run', stops, rfl⟩
    exact ⟨_, whole ++ '.' :: fraction, [], by simp,
      ⟨whole, fraction, rfl, run, run', stops, rfl⟩, rfl, rfl⟩

lemma denominator?_eq_some_iff {digits : List Char} {n : { n : Int // n ≠ 0 }} :
    denominator? digits = some n ↔ n.val = Numeral.value 10 digits := by
  rw [denominator?, Numeral.decimalValue_eq_value]
  constructor
  · intro found
    split at found
    · cases found; rfl
    · cases found
  · intro same
    rw [dif_pos (same ▸ n.property)]
    exact congrArg some (Subtype.ext same.symm)

lemma reads_ratio {front rest : List Char} {datum : Datum} :
    Reads (ratio : Reader L Datum) front rest datum ↔
      ∃ (upper lower : List Char) (value : Ratio), front = upper ++ '/' :: lower ∧
        IsRun Char.isDigit upper ∧ IsRun Char.isDigit lower ∧ Stops Char.isDigit rest ∧
        value.numerator = Numeral.value 10 upper ∧
        value.denominator = Numeral.value 10 lower ∧ datum = .ratio value := by
  simp only [ratio, reads_bind, reads_natural, reads_token, reads_refine, reads_digits, reads_pure]
  constructor
  · rintro ⟨_, upper, _, rfl, ⟨run, -, rfl⟩, _, _, _, rfl, rfl, n, lower, _, rfl,
      ⟨_, ⟨rfl, run', stops⟩, found⟩, rfl, rfl⟩
    exact ⟨upper, _, _, by simp, run, run', stops, rfl, denominator?_eq_some_iff.mp found, rfl⟩
  · rintro ⟨upper, lower, ⟨numerator, denominator, nonzero⟩, rfl, run, run', stops, rfl, same, rfl⟩
    exact ⟨_, upper, '/' :: lower, rfl, ⟨run, Stops.cons rfl, rfl⟩, (), ['/'], lower, rfl, rfl,
      ⟨denominator, nonzero⟩, lower, [], by simp,
      ⟨lower, ⟨rfl, run', stops⟩, denominator?_eq_some_iff.mpr same⟩, rfl, rfl⟩

/-! ## Complex numbers -/

instance : Bounded (natural : Reader L Nat) := by unfold natural; infer_instance

instance : Shallow (natural : Reader L Nat) := by unfold natural; infer_instance

instance : Bounded (decimal : Reader L Binary64) := by unfold decimal; infer_instance

instance : Shallow (decimal : Reader L Binary64) := by unfold decimal; infer_instance

instance : Bounded (part : Reader L Part) := by unfold part; infer_instance

instance : Shallow (part : Reader L Part) := by unfold part; infer_instance

lemma part_of_reads {front rest : List Char} {p : Part}
    (found : Reads (part : Reader L Part) front rest p) :
    Grammar.Part front p.toBinary64 ∧ Stops Char.isDigit rest := by
  simp only [part, firstOf, reads_orElse, reads_map, reads_decimal, reads_natural] at found
  rcases found with ⟨_, ⟨whole, fraction, rfl, run, run', stops, rfl⟩, rfl⟩ |
    ⟨-, ⟨_, ⟨run, stops, rfl⟩, rfl⟩ | ⟨-, found⟩⟩
  · exact ⟨.decimal run run', stops⟩
  · exact ⟨.whole run, stops⟩
  · exact absurd found not_reads_nowhere

/-- Digits that no point follows are no decimal. -/
lemma misses_decimal {digits rest : List Char} (run : IsRun Char.isDigit digits)
    (stops : Stops (fun c => c.isDigit || c == '.') rest) :
    Misses (decimal : Reader L Binary64) (digits ++ rest) := by
  have first : Reads (Reader.digits : Reader L (List Char)) digits rest digits :=
    reads_digits.mpr ⟨rfl, run, stops.mono fun c digit => by rw [digit, Bool.true_or]⟩
  exact first.bind_misses (misses_token_of_stops stops rfl rfl).bind

/-- A part of a complex number is found if no digit and no point follows it. -/
lemma reads_part {front rest : List Char} {x : Binary64} (literal : Grammar.Part front x)
    (stops : Stops (fun c => c.isDigit || c == '.') rest) :
    ∃ p, Reads (part : Reader L Part) front rest p ∧ p.toBinary64 = x := by
  have noDigit : Stops Char.isDigit rest :=
    stops.mono fun c digit => by rw [digit, Bool.true_or]
  simp only [part, firstOf, reads_orElse, reads_map, reads_decimal, reads_natural]
  cases literal with
  | decimal run run' =>
      exact ⟨_, .inl ⟨_, ⟨_, _, rfl, run, run', noDigit, rfl⟩, rfl⟩, rfl⟩
  | whole run =>
      exact ⟨_, .inr ⟨misses_map.mpr (misses_decimal run stops),
        .inl ⟨_, ⟨run, noDigit, rfl⟩, rfl⟩⟩, rfl⟩

lemma lexeme_of_reads_complex {front rest : List Char} {datum : Datum}
    (found : Reads (complex : Reader L Datum) front rest datum) : Lexeme front datum := by
  simp only [complex, reads_bind, reads_token, reads_pure] at found
  obtain ⟨_, left, _, rfl, real, _, _, _, rfl, rfl, _, right, _, rfl, imaginary, _, _, _, rfl, rfl,
    rfl, rfl⟩ := found
  exact .complex (part_of_reads real).1 (part_of_reads imaginary).1

lemma reads_complex {left right rest : List Char} {real imaginary : Binary64}
    (first : Grammar.Part left real) (second : Grammar.Part right imaginary) :
    Reads (complex : Reader L Datum) (left ++ '+' :: (right ++ ['i'])) rest
      (.complex real imaginary) := by
  obtain ⟨p, found, rfl⟩ : ∃ p, Reads (part : Reader L Part) left
      ('+' :: (right ++ 'i' :: rest)) p ∧ p.toBinary64 = real := reads_part first (Stops.cons rfl)
  obtain ⟨q, found', rfl⟩ : ∃ q, Reads (part : Reader L Part) right ('i' :: rest) q ∧
      q.toBinary64 = imaginary := reads_part second (Stops.cons rfl)
  simp only [complex, reads_bind, reads_token, reads_pure]
  exact ⟨p, left, '+' :: (right ++ ['i']), rfl, by simpa using found, (), ['+'], right ++ ['i'],
    rfl, rfl, q, right, ['i'], rfl, found', (), ['i'], [], rfl, rfl, rfl, rfl⟩

end Reader

/-- A part of a complex number starts with digits. -/
lemma Grammar.Part.exists_digits {text : List Char} {x : Binary64} (part : Grammar.Part text x) :
    ∃ digits more, text = digits ++ more ∧ IsRun Char.isDigit digits := by
  cases part with
  | whole run => exact ⟨text, [], by simp, run⟩
  | @decimal whole fraction run _ => exact ⟨whole, '.' :: fraction, rfl, run⟩

end SExpr
