import SExpr.Proofs.Literal.Apart

/-!
# Finding literals of any kind

The kinds of literals are tried in order.  That what is found is a lexeme has nothing to do with
the order; that a lexeme is found, and is found whole, has.

* `lexeme_of_reads` — in whatever order the kinds are tried, what is found is a lexeme.
* `Reads.of_lexeme` — a lexeme is found if what stands behind it does not go on.

For the second no kind that could find more may find anything.  That concerns floats and integers
only: for all other kinds the order is of no account.
-/

namespace SExpr

open Grammar

namespace Reader

variable {L : Type} [Log L]

/-! ## What is found is a lexeme -/

lemma lexeme_of_reads_kind {kind : Literal} {front rest : List Char} {datum : Datum}
    (found : Reads (kind.reader : Reader L Datum) front rest datum) : Lexeme front datum := by
  cases kind with
  | atom => exact lexeme_of_reads_atom found
  | text =>
      obtain ⟨body, content, rfl, inside, rfl⟩ := reads_text.mp found
      exact .text inside
  | character =>
      obtain ⟨c, literal, -, rfl⟩ := reads_character.mp found
      exact .tagged (.character literal)
  | complex => exact lexeme_of_reads_complex found
  | float =>
      obtain ⟨whole, fraction, rfl, run, run', -, rfl⟩ := reads_float.mp found
      exact .float run run'
  | ratio =>
      obtain ⟨upper, lower, value, rfl, run, run', -, same, same', rfl⟩ := reads_ratio.mp found
      exact .ratio run run' same same'
  | integer =>
      simp only [Literal.reader, integer, firstOf, reads_orElse] at found
      rcases found with found | ⟨-, found | ⟨-, found⟩⟩
      · obtain ⟨run, -, rfl⟩ := reads_plainInteger.mp found
        exact .integer run
      · obtain ⟨radix, digits, rfl, run, -, rfl⟩ := reads_radixInteger.mp found
        exact .tagged (.radixInteger (.mk radix run))
      · exact absurd found not_reads_nowhere
  | boolean =>
      obtain ⟨value, literal, rfl⟩ := reads_boolean.mp found
      exact .tagged (.boolean literal)

/-- In whatever order the kinds are tried, what is found is a lexeme. -/
lemma lexeme_of_reads {order : List Literal} {front rest : List Char} {datum : Datum}
    (found : Reads (Literal.firstIn order : Reader L Datum) front rest datum) :
    Lexeme front datum := by
  obtain ⟨before, p, after, split, -, found⟩ := reads_firstOf.mp found
  have member : p ∈ order.map Literal.reader := by simp [split]
  obtain ⟨kind, -, rfl⟩ := List.mem_map.mp member
  exact lexeme_of_reads_kind found

/-! ## Where no literal is -/

/-- Where neither an atom character nor a quotation mark is ahead, no literal is. -/
lemma misses_literal {order : List Literal} {ahead : List Char}
    (other : Stops (fun c => isAtomChar c || c == '"') ahead) :
    Misses (Literal.firstIn order : Reader L Datum) ahead := by
  have noAtomChar : Stops isAtomChar ahead :=
    other.mono fun c taken => by rw [taken, Bool.true_or]
  have noSign : Stops (fun c => c == '#') ahead :=
    noAtomChar.mono fun c sign => by rw [beq_iff_eq.mp sign]; rfl
  obtain ⟨noBoolean, noCharacter, noRadixInteger⟩ := misses_tagged (L := L) noSign
  obtain ⟨noComplex, noFloat, noRatio, noPlainInteger⟩ :=
    misses_number (L := L) (noAtomChar.mono fun _ => isAtomChar_of_isDigit)
  rw [Literal.firstIn, misses_firstOf]
  intro p member
  obtain ⟨kind, -, rfl⟩ := List.mem_map.mp member
  cases kind with
  | atom => exact misses_atom (noAtomChar.mono fun _ => isAtomChar_of_isAtomStart)
  | text => exact misses_text (other.mono fun c mark => by rw [mark, Bool.or_true])
  | character => exact noCharacter
  | complex => exact noComplex
  | float => exact noFloat
  | ratio => exact noRatio
  | integer => exact misses_integer noPlainInteger noRadixInteger
  | boolean => exact noBoolean

/-- Where no literal is, none of any kind is. -/
lemma misses_kind {ahead : List Char}
    (missing : Misses (Literal.firstIn Literal.inOrder : Reader L Datum) ahead) (kind : Literal) :
    Misses (kind.reader : Reader L Datum) ahead :=
  misses_firstOf.mp missing _ (List.mem_map_of_mem kind.mem_inOrder)

/-! ## A lexeme is found -/

/-- Whether a character behind digits goes on them, be it as part of another number. -/
def goesOnDigits (c : Char) : Bool := c.isDigit || c == '.' || c == '+' || c == '/'

lemma goesOn_of_goesOnDigits {c : Char} (taken : goesOnDigits c = true) : goesOn c = true := by
  simp only [goesOnDigits, Bool.or_eq_true, beq_iff_eq] at taken
  rcases taken with ((digit | rfl) | rfl) | rfl
  · exact goesOn_of_isAtomChar (isAtomChar_of_isDigit digit)
  · rfl
  · rfl
  · rfl

/-- What does not go on digits is no digit. -/
lemma stops_isDigit {rest : List Char} (stops : Stops goesOnDigits rest) :
    Stops Char.isDigit rest :=
  stops.mono fun c digit => by simp [goesOnDigits, digit]

/-- A kind finds its literals in a ranked order if no kind that could find more finds anything. -/
lemma Reads.of_kind {order : List Literal} (distinct : order.Nodup) (ranked : Literal.Ranked order)
    {kind : Literal} (member : kind ∈ order) {front rest : List Char} {datum : Datum}
    (found : Reads (kind.reader : Reader L Datum) front rest datum)
    (further : ∀ other, (other, kind) ∈ Literal.precedences →
      Misses (other.reader : Reader L Datum) (front ++ rest)) :
    Reads (Literal.firstIn order : Reader L Datum) front rest datum := by
  obtain ⟨before, after, rfl⟩ := List.append_of_mem member
  refine reads_firstOf.mpr ⟨before.map Literal.reader, kind.reader, after.map Literal.reader,
    by rw [List.map_append, List.map_cons], ?_, found⟩
  intro p member
  obtain ⟨other, earlier, rfl⟩ := List.mem_map.mp member
  have different := (List.pairwise_append.mp distinct).2.2 other earlier kind List.mem_cons_self
  have notAfter := (List.pairwise_append.mp ranked).2.2 other earlier kind List.mem_cons_self
  by_cases precedes : (other, kind) ∈ Literal.precedences
  · exact further other precedes
  · rcases misses_or_misses (L := L) different precedes notAfter (front ++ rest) with
      missing | missing
    · exact missing
    · exact absurd missing found.not_misses

/-- A kind that no other one precedes finds its literals. -/
lemma Reads.of_unpreceded (kind : Literal) (first : kind ∉ [.float, .integer])
    {front rest : List Char} {datum : Datum}
    (found : Reads (kind.reader : Reader L Datum) front rest datum) :
    Reads (Literal.firstIn Literal.inOrder : Reader L Datum) front rest datum := by
  refine .of_kind Literal.nodup_inOrder Literal.ranked_inOrder kind.mem_inOrder found ?_
  intro other precedes
  rcases Literal.precedes_cases precedes with ⟨-, rfl⟩ | ⟨-, rfl⟩
  · exact absurd (by decide) first
  · exact absurd (by decide) first

/-- An integer is found if no other kind of number finds anything. -/
lemma Reads.of_integer {front rest : List Char} {datum : Datum}
    (found : Reads (integer : Reader L Datum) front rest datum)
    (noComplex : Misses (complex : Reader L Datum) (front ++ rest))
    (noFloat : Misses (float : Reader L Datum) (front ++ rest))
    (noRatio : Misses (ratio : Reader L Datum) (front ++ rest)) :
    Reads (Literal.firstIn Literal.inOrder : Reader L Datum) front rest datum := by
  have isInteger : Reads (Literal.integer.reader : Reader L Datum) front rest datum := found
  refine .of_kind Literal.nodup_inOrder Literal.ranked_inOrder (by decide) isInteger ?_
  intro other precedes
  rcases Literal.precedes_cases precedes with ⟨-, same⟩ | ⟨further, -⟩
  · cases same
  · simp only [List.mem_cons, List.not_mem_nil, or_false] at further
    rcases further with rfl | rfl | rfl
    · exact noComplex
    · exact noFloat
    · exact noRatio

/-- Digits are found as an integer if nothing goes on them, neither another digit nor what makes
another number of them. -/
lemma Reads.of_digits {digits rest : List Char} (run : IsRun Char.isDigit digits)
    (stops : Stops goesOnDigits rest) :
    Reads (Literal.firstIn Literal.inOrder : Reader L Datum) digits rest
      (.integer (Numeral.value 10 digits)) := by
  have noDigit : Stops Char.isDigit rest := stops_isDigit stops
  have noDecimal : Misses (decimal : Reader L Binary64) (digits ++ rest) :=
    misses_decimal run (stops.mono fun c taken => by simp [goesOnDigits, taken])
  have noComplex : Misses (complex : Reader L Datum) (digits ++ rest) :=
    misses_complex (.whole run) (stops.mono fun c taken => by simp [goesOnDigits, taken])
  have numerator : Reads (natural : Reader L Nat) digits rest _ :=
    reads_natural.mpr ⟨run, noDigit, rfl⟩
  have noRatio : Misses (ratio : Reader L Datum) (digits ++ rest) :=
    numerator.bind_misses (misses_token_of_stops stops rfl rfl).bind
  exact .of_integer (reads_integer run noDigit) noComplex noDecimal.bind noRatio

/-- Digits of a radix behind its tag are found if no other digit of the radix follows. -/
lemma Reads.of_radixInteger {radix : Numeral.Radix} {digits rest : List Char}
    (run : IsRun radix.isDigit digits) (stops : Stops radix.isDigit rest) :
    Reads (Literal.firstIn Literal.inOrder : Reader L Datum) ('#' :: tag radix :: digits) rest
      (.integer (Numeral.value radix.base digits)) := by
  obtain ⟨noComplex, noFloat, noRatio, noPlain⟩ : Misses (complex : Reader L Datum)
      ('#' :: tag radix :: digits ++ rest) ∧ _ := misses_number (Stops.cons rfl)
  have found : Reads (radixInteger : Reader L Datum) ('#' :: tag radix :: digits) rest _ :=
    reads_radixInteger.mpr ⟨radix, digits, rfl, run, stops, rfl⟩
  refine .of_integer ?_ noComplex noFloat noRatio
  rw [integer, firstOf, reads_orElse, firstOf, reads_orElse]
  exact .inr ⟨noPlain, .inl found⟩

/-- A text is found whatever stands behind it. -/
lemma Reads.of_textBody {body content rest : List Char} (inside : TextBody body content) :
    Reads (Literal.firstIn Literal.inOrder : Reader L Datum) ('"' :: (body ++ ['"'])) rest
      (.text (String.ofList content)) :=
  .of_unpreceded .text (by decide) (reads_text.mpr ⟨body, content, rfl, inside, rfl⟩)

/-- A literal with a number sign is found whole if no atom character follows. -/
lemma Reads.of_tagged {front rest : List Char} {datum : Datum} (literal : Tagged front datum)
    (stops : Stops isAtomChar rest) :
    Reads (Literal.firstIn Literal.inOrder : Reader L Datum) front rest datum := by
  cases literal with
  | boolean literal =>
      exact .of_unpreceded .boolean (by decide) (reads_boolean.mpr ⟨_, literal, rfl⟩)
  | character named =>
      exact .of_unpreceded .character (by decide)
        (reads_character.mpr ⟨_, named, stops.mono fun _ => isAtomChar_of_isLetter, rfl⟩)
  | radixInteger literal =>
      obtain ⟨radix, run⟩ := literal
      exact .of_radixInteger run (stops.mono fun _ => isAtomChar_of_radix_isDigit)

/-- A lexeme is found, and found whole, if what stands behind it does not go on. -/
theorem Reads.of_lexeme {front rest : List Char} {datum : Datum} (lexeme : Lexeme front datum)
    (delimited : Delimited rest) :
    Reads (Literal.firstIn Literal.inOrder : Reader L Datum) front rest datum := by
  have ends : Stops (fun c => c.isDigit || c == '.' || c == '+') rest :=
    delimited.mono fun c taken => goesOn_of_goesOnDigits (by simp only [goesOnDigits, taken]; rfl)
  cases lexeme with
  | atom start chars free =>
      exact .of_unpreceded .atom (by decide) (reads_atom_of_lexeme start chars free delimited)
  | text inside => exact .of_textBody inside
  | tagged literal => exact .of_tagged literal delimited.stops_atomChar
  | complex first second => exact .of_unpreceded .complex (by decide) (reads_complex first second)
  | @float whole fraction run run' =>
      have found : Reads (Literal.float.reader : Reader L Datum) (whole ++ '.' :: fraction) rest
          _ := reads_float.mpr ⟨whole, fraction, rfl, run, run', delimited.stops_digit, rfl⟩
      refine .of_kind Literal.nodup_inOrder Literal.ranked_inOrder (by decide) found ?_
      intro other precedes
      rcases Literal.precedes_cases precedes with ⟨rfl, -⟩ | ⟨-, same⟩
      · exact misses_complex (.decimal run run') ends
      · cases same
  | @ratio upper lower value run run' same same' =>
      exact .of_unpreceded .ratio (by decide) (reads_ratio.mpr
        ⟨upper, lower, value, rfl, run, run', delimited.stops_digit, same, same', rfl⟩)
  | integer run => exact .of_digits run (delimited.mono fun _ => goesOn_of_goesOnDigits)

end Reader

end SExpr
