import SExpr.Proofs.Literal.Number
import SExpr.Proofs.Literal.Tagged
import SExpr.Proofs.Literal.Text
import SExpr.Reader.Literal

/-!
# Two kinds of literals at one place

Of two kinds of literals that both find something at one place, one goes on further, and which one
it is does not depend on the place.  Only numbers without a tag share a beginning: it is a run of
digits, and the character behind it decides between them.  All others keep clear of each other; for
atoms, which could start with a number sign as well, that is what the look-ahead is for.

* `Literal.precedences` — the pairs of kinds of which the second finds a beginning of what the first
  one finds.
* `Literal.Ranked` — orders in which none stands before one that finds more.
* `misses_other` — where an atom, a text, a character or a truth value is, no other kind is.
* `misses_or_misses` — two kinds that do not precede one another find nothing at the same place.
* `shorter_of_reads` — if one precedes the other, what the other finds is shorter.
-/

namespace SExpr

open Grammar

/-- The pairs of kinds of which the second finds a beginning of what the first one finds. -/
def Literal.precedences : List (Literal × Literal) :=
  [(.complex, .float), (.complex, .integer), (.float, .integer), (.ratio, .integer)]

lemma Literal.precedes_cases {kind other : Literal} (precedes : (kind, other) ∈ precedences) :
    kind = .complex ∧ other = .float ∨
      kind ∈ [.complex, .float, .ratio] ∧ other = .integer := by
  revert precedes
  cases kind <;> cases other <;> decide

/-- An order of kinds in which none stands before one that finds more. -/
def Literal.Ranked (order : List Literal) : Prop :=
  order.Pairwise fun kind later => (later, kind) ∉ precedences

instance (order : List Literal) : Decidable (Literal.Ranked order) :=
  inferInstanceAs (Decidable (order.Pairwise _))

lemma Literal.ranked_inOrder : Literal.Ranked Literal.inOrder := by decide

lemma Literal.nodup_inOrder : Literal.inOrder.Nodup := by decide

lemma Literal.mem_inOrder (kind : Literal) : kind ∈ inOrder := by
  cases kind <;> decide

/-- Kinds with which no other shares a beginning. -/
def Literal.alone : List Literal := [.atom, .text, .character, .boolean]

/-- Of two kinds that do not precede one another one is alone, unless one is a ratio and the other
another fractional number. -/
lemma Literal.alone_or_ratio {kind other : Literal} (different : kind ≠ other)
    (notBefore : (kind, other) ∉ precedences) (notAfter : (other, kind) ∉ precedences) :
    kind ∈ alone ∨ other ∈ alone ∨ kind = .ratio ∧ other ∈ [.complex, .float] ∨
      other = .ratio ∧ kind ∈ [.complex, .float] := by
  revert different notBefore notAfter
  cases kind <;> cases other <;> decide

namespace Reader

variable {L : Type} [Log L] {front rest : List Char} {datum : Datum}

instance : Bounded (text : Reader L Datum) := by unfold text; infer_instance

instance : Shallow (text : Reader L Datum) := by unfold text; infer_instance

instance : Bounded (plainInteger : Reader L Datum) := by unfold plainInteger; infer_instance

instance : Shallow (plainInteger : Reader L Datum) := by unfold plainInteger; infer_instance

instance : Bounded (integer : Reader L Datum) := by unfold integer; infer_instance

instance : Shallow (integer : Reader L Datum) := by unfold integer; infer_instance

instance : Bounded (float : Reader L Datum) := by unfold float; infer_instance

instance : Shallow (float : Reader L Datum) := by unfold float; infer_instance

instance : Bounded (ratio : Reader L Datum) := by unfold ratio; infer_instance

instance : Shallow (ratio : Reader L Datum) := by unfold ratio; infer_instance

instance : Bounded (complex : Reader L Datum) := by unfold complex; infer_instance

instance : Shallow (complex : Reader L Datum) := by unfold complex; infer_instance

instance (kind : Literal) : Bounded (kind.reader : Reader L Datum) := by
  cases kind <;> unfold Literal.reader <;> infer_instance

instance (kind : Literal) : Shallow (kind.reader : Reader L Datum) := by
  cases kind <;> unfold Literal.reader <;> infer_instance

instance (order : List Literal) : Bounded (Literal.firstIn order : Reader L Datum) := by
  unfold Literal.firstIn
  induction order with
  | nil => exact inferInstanceAs (Bounded (firstOf []))
  | cons kind others ih => exact inferInstanceAs (Bounded (firstOf (kind.reader :: _)))

instance (order : List Literal) : Shallow (Literal.firstIn order : Reader L Datum) := by
  unfold Literal.firstIn
  induction order with
  | nil => exact inferInstanceAs (Shallow (firstOf []))
  | cons kind others ih => exact inferInstanceAs (Shallow (firstOf (kind.reader :: _)))

/-! ## Numbers that are there and numbers that are not -/

/-- Where no digit is ahead, no number without a tag is. -/
lemma misses_number {ahead : List Char} (other : Stops Char.isDigit ahead) :
    Misses (complex : Reader L Datum) ahead ∧ Misses (float : Reader L Datum) ahead ∧
      Misses (ratio : Reader L Datum) ahead ∧ Misses (plainInteger : Reader L Datum) ahead := by
  have noDigits : Misses (digits : Reader L (List Char)) ahead := misses_digits.mpr other
  have noDecimal : Misses (decimal : Reader L Binary64) ahead := noDigits.bind
  have noNatural : Misses (natural : Reader L Nat) ahead := noDigits.bind
  have noPart : Misses (part : Reader L Part) ahead := by
    rw [part, misses_firstOf]
    simp [misses_map, noDecimal, noNatural]
  exact ⟨noPart.bind, noDecimal.bind, noNatural.bind, noNatural.bind⟩

/-- A part behind which neither a plus nor anything that goes on the part stands begins no complex
number. -/
lemma misses_complex {front rest : List Char} {x : Binary64} (literal : Grammar.Part front x)
    (stops : Stops (fun c => c.isDigit || c == '.' || c == '+') rest) :
    Misses (complex : Reader L Datum) (front ++ rest) := by
  obtain ⟨p, found, -⟩ : ∃ p, Reads (part : Reader L Part) front rest p ∧ p.toBinary64 = x :=
    reads_part literal (stops.mono fun c taken => by rw [taken, Bool.true_or])
  exact found.bind_misses (misses_token_of_stops stops rfl rfl).bind

/-- Digits that no digit follows are read as an integer. -/
lemma reads_integer {digits : List Char} (run : IsRun Char.isDigit digits)
    (stops : Stops Char.isDigit rest) :
    Reads (integer : Reader L Datum) digits rest (.integer (Numeral.value 10 digits)) := by
  rw [integer, firstOf, reads_orElse]
  exact .inl (reads_plainInteger.mpr ⟨run, stops, rfl⟩)

lemma misses_integer {ahead : List Char} (noPlain : Misses (plainInteger : Reader L Datum) ahead)
    (noTagged : Misses (radixInteger : Reader L Datum) ahead) :
    Misses (integer : Reader L Datum) ahead :=
  misses_firstOf.mpr (by simp [noPlain, noTagged])

/-! ## Kinds that are alone -/

/-- Where an atom is found, no literal with a number sign is. -/
lemma misses_tagged_of_reads_atom (found : Reads (atom : Reader L Datum) front rest datum) :
    Misses (taggedLiteral : Reader L Datum) (front ++ rest) := by
  obtain ⟨_, _, -, -, -, -, free, -⟩ := reads_atom.mp found
  rcases Shallow.verdict_cases (taggedLiteral : Reader L Datum) (front ++ rest) with
    ⟨tagged, others, literal, split, found⟩ | missing
  · exact free (split ▸ looksTagged_of_tagged (tagged_of_reads found) others)
  · exact missing

lemma misses_other_of_atom (found : Reads (atom : Reader L Datum) front rest datum)
    {other : Literal} (different : other ≠ .atom) :
    Misses (other.reader : Reader L Datum) (front ++ rest) := by
  have noTagged := misses_firstOf.mp (misses_tagged_of_reads_atom found)
  obtain ⟨first, others, rfl, start, -⟩ := reads_atom.mp found
  have noDigit : Stops Char.isDigit (first :: others ++ rest) := Stops.cons <| by
    cases digit : first.isDigit with
    | false => rfl
    | true => rw [isAtomStart_eq_false_of_isDigit digit] at start; cases start
  have noMark : Stops (fun c => c == '"') (first :: others ++ rest) := Stops.cons <| by
    rw [beq_eq_false_iff_ne]
    rintro rfl
    cases start
  obtain ⟨noComplex, noFloat, noRatio, noPlain⟩ := misses_number (L := L) noDigit
  cases other with
  | atom => exact absurd rfl different
  | text => exact misses_text noMark
  | character => exact noTagged character (by simp)
  | complex => exact noComplex
  | float => exact noFloat
  | ratio => exact noRatio
  | integer => exact misses_integer noPlain (noTagged radixInteger (by simp))
  | boolean => exact noTagged boolean (by simp)

/-- Where another literal is found, no atom is. -/
lemma misses_atom_of_reads {kind : Literal} (different : kind ≠ .atom)
    (found : Reads (kind.reader : Reader L Datum) front rest datum) :
    Misses (atom : Reader L Datum) (front ++ rest) := by
  rcases Shallow.verdict_cases (atom : Reader L Datum) (front ++ rest) with
    ⟨name, others, _, split, isAtom⟩ | missing
  · have missing := misses_other_of_atom isAtom different
    exact absurd (split ▸ missing) found.not_misses
  · exact missing

lemma misses_other_of_text (found : Reads (text : Reader L Datum) front rest datum)
    {other : Literal} (different : other ≠ .text) :
    Misses (other.reader : Reader L Datum) (front ++ rest) := by
  have isText : Reads (Literal.text.reader : Reader L Datum) front rest datum := found
  have noAtom := misses_atom_of_reads (by decide) isText
  obtain ⟨body, content, rfl, -, -⟩ := reads_text.mp found
  obtain ⟨noBoolean, noCharacter, noTagged⟩ : Misses (boolean : Reader L Datum)
      ('"' :: (body ++ ['"']) ++ rest) ∧ _ := misses_tagged (Stops.cons rfl)
  obtain ⟨noComplex, noFloat, noRatio, noPlain⟩ : Misses (complex : Reader L Datum)
      ('"' :: (body ++ ['"']) ++ rest) ∧ _ := misses_number (Stops.cons rfl)
  cases other with
  | atom => exact noAtom
  | text => exact absurd rfl different
  | character => exact noCharacter
  | complex => exact noComplex
  | float => exact noFloat
  | ratio => exact noRatio
  | integer => exact misses_integer noPlain noTagged
  | boolean => exact noBoolean

/-- Behind a number sign the next character tells the other literals apart. -/
lemma misses_other_of_sign {kind other : Literal} {c : Char} {more : List Char}
    (notAtom : kind ≠ .atom)
    (found : Reads (kind.reader : Reader L Datum) front rest datum)
    (split : front ++ rest = '#' :: c :: more)
    (radixTag : Numeral.Radix.ofTag? c = none)
    (notCharacter : kind ≠ .character → c ≠ '\\')
    (notBoolean : kind ≠ .boolean → truthValue? c = none)
    (different : other ≠ kind) : Misses (other.reader : Reader L Datum) (front ++ rest) := by
  have noAtom := misses_atom_of_reads notAtom found
  rw [split] at noAtom ⊢
  obtain ⟨noComplex, noFloat, noRatio, noPlain⟩ : Misses (complex : Reader L Datum)
      ('#' :: c :: more) ∧ _ := misses_number (Stops.cons rfl)
  cases other with
  | atom => exact noAtom
  | text => exact misses_text (Stops.cons rfl)
  | character => exact misses_character (notCharacter different.symm)
  | complex => exact noComplex
  | float => exact noFloat
  | ratio => exact noRatio
  | integer => exact misses_integer noPlain (misses_radixInteger radixTag)
  | boolean => exact misses_boolean (notBoolean different.symm)

/-- Where an atom, a text, a character or a truth value is found, no other kind of literal is. -/
lemma misses_other {kind other : Literal} (alone : kind ∈ Literal.alone)
    (found : Reads (kind.reader : Reader L Datum) front rest datum) (different : other ≠ kind) :
    Misses (other.reader : Reader L Datum) (front ++ rest) := by
  cases kind with
  | atom => exact misses_other_of_atom found different
  | text => exact misses_other_of_text found different
  | character =>
      obtain ⟨c, named, -, -⟩ := reads_character.mp found
      obtain ⟨name, rfl, -⟩ := named.exists_name
      exact misses_other_of_sign (by decide) found rfl rfl (by simp) (fun _ => rfl) different
  | boolean =>
      obtain ⟨value, literal, -⟩ := reads_boolean.mp found
      cases literal <;>
        exact misses_other_of_sign (by decide) found rfl rfl (by decide) (by simp) different
  | complex => simp [Literal.alone] at alone
  | float => simp [Literal.alone] at alone
  | ratio => simp [Literal.alone] at alone
  | integer => simp [Literal.alone] at alone

/-! ## Numbers -/

/-- Behind the first digits of a ratio a slash stands, and of a complex number or a float none. -/
lemma misses_of_reads_ratio (found : Reads (ratio : Reader L Datum) front rest datum) :
    Misses (complex : Reader L Datum) (front ++ rest) ∧
      Misses (float : Reader L Datum) (front ++ rest) := by
  obtain ⟨upper, lower, value, rfl, run, -⟩ := reads_ratio.mp found
  have noDecimal : Misses (decimal : Reader L Binary64) (upper ++ ('/' :: lower ++ rest)) :=
    misses_decimal run (Stops.cons rfl)
  rw [List.append_assoc]
  exact ⟨misses_complex (.whole run) (Stops.cons rfl), noDecimal.bind⟩

lemma exists_of_reads_complex (found : Reads (complex : Reader L Datum) front rest datum) :
    ∃ left more real, front = left ++ '+' :: more ∧ Grammar.Part left real := by
  simp only [complex, reads_bind, reads_token] at found
  obtain ⟨_, left, _, rfl, real, _, _, more, rfl, rfl, -⟩ := found
  exact ⟨left, more, _, rfl, (part_of_reads real).1⟩

/-- What goes on further than an integer starts with digits and goes on with something else. -/
lemma exists_digits_of_reads {kind : Literal} (goesOn : kind ∈ [.complex, .float, .ratio])
    (found : Reads (kind.reader : Reader L Datum) front rest datum) :
    ∃ digits c more, front = digits ++ c :: more ∧ IsRun Char.isDigit digits ∧
      c.isDigit = false := by
  cases kind with
  | complex =>
      obtain ⟨left, more, real, rfl, literal⟩ := exists_of_reads_complex found
      cases literal with
      | whole run => exact ⟨left, '+', more, rfl, run, rfl⟩
      | @decimal whole fraction run _ =>
          exact ⟨whole, '.', fraction ++ '+' :: more, by simp, run, rfl⟩
  | float =>
      obtain ⟨whole, fraction, rfl, run, -⟩ := reads_float.mp found
      exact ⟨whole, '.', fraction, rfl, run, rfl⟩
  | ratio =>
      obtain ⟨upper, lower, _, rfl, run, -⟩ := reads_ratio.mp found
      exact ⟨upper, '/', lower, rfl, run, rfl⟩
  | atom => simp at goesOn
  | text => simp at goesOn
  | character => simp at goesOn
  | integer => simp at goesOn
  | boolean => simp at goesOn

/-- The first part of a complex number is a float or, if it has no point, starts none. -/
lemma float_of_reads_complex (found : Reads (complex : Reader L Datum) front rest datum) :
    Misses (float : Reader L Datum) (front ++ rest) ∨ ∃ left c more datum,
      front = left ++ c :: more ∧
        Reads (float : Reader L Datum) left (c :: more ++ rest) datum := by
  obtain ⟨left, more, real, rfl, literal⟩ := exists_of_reads_complex found
  cases literal with
  | whole run =>
      have noDecimal : Misses (decimal : Reader L Binary64) (left ++ ('+' :: more ++ rest)) :=
        misses_decimal run (Stops.cons rfl)
      rw [List.append_assoc]
      exact .inl noDecimal.bind
  | @decimal whole fraction run run' =>
      have isFloat : Reads (float : Reader L Datum) _ ('+' :: more ++ rest) _ :=
        reads_float.mpr ⟨whole, fraction, rfl, run, run', Stops.cons rfl, rfl⟩
      exact .inr ⟨_, '+', more, _, rfl, isFloat⟩

/-- If one kind precedes another, where the first is found the second finds less, or nothing. -/
lemma shorter_of_reads {kind other : Literal} (precedes : (kind, other) ∈ Literal.precedences)
    (found : Reads (kind.reader : Reader L Datum) front rest datum) :
    Misses (other.reader : Reader L Datum) (front ++ rest) ∨ ∃ left c more datum,
      front = left ++ c :: more ∧
        Reads (other.reader : Reader L Datum) left (c :: more ++ rest) datum := by
  rcases Literal.precedes_cases precedes with ⟨rfl, rfl⟩ | ⟨goesOn, rfl⟩
  · exact float_of_reads_complex found
  · obtain ⟨digits, c, more, rfl, run, noDigit⟩ := exists_digits_of_reads goesOn found
    exact .inr ⟨digits, c, more, _, rfl, reads_integer run (Stops.cons noDigit)⟩

omit [Log L] in
/-- A reader keeps clear of another if it finds something only where the other misses. -/
lemma misses_or_misses_of_reads {p q : Reader L Datum} [Bounded p] [Shallow p] {ahead : List Char}
    (clear : ∀ {front rest datum}, front ++ rest = ahead → Reads p front rest datum →
      Misses q ahead) : Misses p ahead ∨ Misses q ahead := by
  rcases Shallow.verdict_cases p ahead with ⟨front, rest, datum, rfl, found⟩ | missing
  · exact .inr (clear rfl found)
  · exact .inl missing

/-- Two kinds of literals of which neither precedes the other find nothing at the same place. -/
lemma misses_or_misses {kind other : Literal} (different : kind ≠ other)
    (notBefore : (kind, other) ∉ Literal.precedences)
    (notAfter : (other, kind) ∉ Literal.precedences) (ahead : List Char) :
    Misses (kind.reader : Reader L Datum) ahead ∨ Misses (other.reader : Reader L Datum) ahead := by
  have ratio {kind : Literal} (fractional : kind ∈ [.complex, .float]) :
      Misses (ratio : Reader L Datum) ahead ∨ Misses (kind.reader : Reader L Datum) ahead := by
    refine misses_or_misses_of_reads fun {front rest datum} split found => ?_
    obtain ⟨noComplex, noFloat⟩ := misses_of_reads_ratio found
    rw [← split]
    simp only [List.mem_cons, List.not_mem_nil, or_false] at fractional
    rcases fractional with rfl | rfl
    · exact noComplex
    · exact noFloat
  rcases Literal.alone_or_ratio different notBefore notAfter with
    alone | alone | ⟨rfl, fractional⟩ | ⟨rfl, fractional⟩
  · exact misses_or_misses_of_reads fun split found =>
      split ▸ misses_other alone found different.symm
  · exact .symm (misses_or_misses_of_reads fun split found =>
      split ▸ misses_other alone found different)
  · exact ratio fractional
  · exact (ratio fractional).symm

end Reader

end SExpr
