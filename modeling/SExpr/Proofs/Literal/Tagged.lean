import SExpr.Proofs.Characters
import SExpr.Reader.Tagged

/-!
# Finding atoms and literals with a number sign

The number sign is also a symbol, so what starts with it may be an atom.  The reader of atoms asks
the other readers first; the grammar says that none of their literals begins an atom.  The two
agree because these literals consist of characters that go on a literal: where one is found, it
cannot reach beyond the atom.

* `reads_boolean`, `reads_character`, `reads_radixInteger` — what each of these readers finds.
* `lexeme_of_reads_atom`, `reads_atom_of_lexeme` — what is found as an atom is one, and the other
  way round where the text behind does not go on.
* `not_misses_tagged`, `looksTagged_of_tagged` — where such a literal starts, an atom makes room.
-/

namespace SExpr

open Grammar

namespace Reader

variable {L : Type} [Log L]

/-! ## Literals with a number sign -/

lemma reads_boolean {front rest : List Char} {datum : Datum} :
    Reads (boolean : Reader L Datum) front rest datum ↔
      ∃ value, Boolean front value ∧ datum = .boolean value := by
  simp only [boolean, reads_bind, reads_token, reads_pick, reads_pure]
  constructor
  · rintro ⟨_, _, _, rfl, rfl, value, _, _, rfl, ⟨c, rfl, stands⟩, rfl, rfl⟩
    refine ⟨value, ?_, rfl⟩
    simp only [truthValue?] at stands
    split at stands
    · cases stands; exact .yes
    · cases stands; exact .no
    · cases stands
  · rintro ⟨value, literal, rfl⟩
    cases literal with
    | yes => exact ⟨(), ['#'], ['t'], rfl, rfl, true, ['t'], [], rfl, ⟨'t', rfl, rfl⟩, rfl, rfl⟩
    | no => exact ⟨(), ['#'], ['f'], rfl, rfl, false, ['f'], [], rfl, ⟨'f', rfl, rfl⟩, rfl, rfl⟩

lemma namedCharacter?_eq_some_iff {name : List Char} {c : Char}
    (letters : IsRun Unicode.isLetter name) :
    namedCharacter? name = some c ↔ Character ('#' :: '\\' :: name) c := by
  constructor
  · intro named
    unfold namedCharacter? at named
    simp only at named
    split at named
    · next space => cases named; exact .space space
    · split at named
      · next newline => cases named; exact .newline newline
      · split at named
        · cases named; exact .letter (letters.2 _ (by simp))
        · cases named
  · intro literal
    cases literal with
    | letter letter =>
        have space : [c].map Char.toLower ≠ "space".toList := fun same => by
          simpa using congrArg List.length same
        have newline : [c].map Char.toLower ≠ "newline".toList := fun same => by
          simpa using congrArg List.length same
        unfold namedCharacter?
        simp only [if_neg space, if_neg newline]
    | space same =>
        unfold namedCharacter?
        exact if_pos same
    | newline same =>
        have other : name.map Char.toLower ≠ "space".toList := by
          rw [same]
          decide
        unfold namedCharacter?
        simp only [if_neg other, if_pos same]


lemma reads_character {front rest : List Char} {datum : Datum} :
    Reads (character : Reader L Datum) front rest datum ↔
      ∃ c, Character front c ∧ Stops Unicode.isLetter rest ∧ datum = .character c := by
  simp only [character, reads_bind, reads_token, reads_refine, reads_run, reads_pure]
  constructor
  · rintro ⟨_, _, _, rfl, rfl, c, name, _, rfl, ⟨_, ⟨rfl, letters, stops⟩, named⟩, rfl, rfl⟩
    refine ⟨c, ?_, stops, rfl⟩
    simpa using (namedCharacter?_eq_some_iff letters).mp named
  · rintro ⟨c, literal, stops, rfl⟩
    obtain ⟨name, rfl, letters⟩ := literal.exists_name
    exact ⟨(), ['#', '\\'], name, rfl, rfl, c, name, [], by simp,
      ⟨name, ⟨rfl, letters, stops⟩, (namedCharacter?_eq_some_iff letters).mpr literal⟩, rfl, rfl⟩

lemma ofTag?_eq_some_iff {c : Char} {radix : Numeral.Radix} :
    Numeral.Radix.ofTag? c = some radix ↔ c = tag radix := by
  constructor
  · intro tagged
    simp only [Numeral.Radix.ofTag?] at tagged
    split at tagged
    · cases tagged; rfl
    · cases tagged; rfl
    · cases tagged; rfl
    · cases tagged; rfl
    · cases tagged
  · rintro rfl
    cases radix <;> rfl

lemma reads_radixInteger {front rest : List Char} {datum : Datum} :
    Reads (radixInteger : Reader L Datum) front rest datum ↔
      ∃ (radix : Numeral.Radix) (digits : List Char), front = '#' :: tag radix :: digits ∧
        IsRun radix.isDigit digits ∧ Stops radix.isDigit rest ∧
        datum = .integer (Numeral.value radix.base digits) := by
  simp only [radixInteger, reads_bind, reads_token, reads_pick, reads_run, reads_pure]
  constructor
  · rintro ⟨_, _, _, rfl, rfl, radix, _, _, rfl, ⟨c, rfl, tagged⟩, _, digits, _, rfl,
      ⟨rfl, run, stops⟩, rfl, rfl⟩
    obtain rfl := ofTag?_eq_some_iff.mp tagged
    exact ⟨radix, _, by simp, run, stops, by rw [Numeral.Radix.value_eq]⟩
  · rintro ⟨radix, digits, rfl, run, stops, rfl⟩
    exact ⟨(), ['#'], tag radix :: digits, rfl, rfl, radix, [tag radix], digits, rfl,
      ⟨tag radix, rfl, ofTag?_eq_some_iff.mpr rfl⟩, digits, digits, [], by simp,
      ⟨rfl, run, stops⟩, rfl, by rw [Numeral.Radix.value_eq]⟩

/-- Where no number sign is ahead, none of these literals is. -/
lemma misses_tagged {ahead : List Char} (other : Stops (fun c => c == '#') ahead) :
    Misses (boolean : Reader L Datum) ahead ∧ Misses (character : Reader L Datum) ahead ∧
      Misses (radixInteger : Reader L Datum) ahead := by
  have noSign : ∀ {text : String} {after : List Char}, text.toList = '#' :: after →
      Misses (token text : Reader L Unit) ahead := fun start =>
    misses_token_of_stops other start rfl
  exact ⟨(noSign rfl).bind, (noSign rfl).bind, (noSign rfl).bind⟩

lemma misses_boolean {c : Char} {rest : List Char} (other : truthValue? c = none) :
    Misses (boolean : Reader L Datum) ('#' :: c :: rest) :=
  Reads.bind_misses (reads_token.mpr rfl : Reads (token "#") ['#'] (c :: rest) ())
    (Misses.bind (misses_pick.mpr (by simpa using other)))

lemma misses_character {c : Char} {rest : List Char} (other : c ≠ '\\') :
    Misses (character : Reader L Datum) ('#' :: c :: rest) := by
  refine Misses.bind (misses_token.mpr ?_)
  rintro ⟨after, same⟩
  cases same
  exact other rfl

lemma misses_radixInteger {c : Char} {rest : List Char} (other : Numeral.Radix.ofTag? c = none) :
    Misses (radixInteger : Reader L Datum) ('#' :: c :: rest) :=
  Reads.bind_misses (reads_token.mpr rfl : Reads (token "#") ['#'] (c :: rest) ())
    (Misses.bind (misses_pick.mpr (by simpa using other)))

instance : Bounded (boolean : Reader L Datum) := by unfold boolean; infer_instance

instance : Shallow (boolean : Reader L Datum) := by unfold boolean; infer_instance

instance : Bounded (character : Reader L Datum) := by unfold character; infer_instance

instance : Shallow (character : Reader L Datum) := by unfold character; infer_instance

instance : Bounded (radixInteger : Reader L Datum) := by unfold radixInteger; infer_instance

instance : Shallow (radixInteger : Reader L Datum) := by unfold radixInteger; infer_instance

/-! ## Atoms -/

instance : Bounded (taggedLiteral : Reader L Datum) := by unfold taggedLiteral; infer_instance

instance : Shallow (taggedLiteral : Reader L Datum) := by unfold taggedLiteral; infer_instance

lemma tagged_of_reads {front rest : List Char} {datum : Datum}
    (found : Reads (taggedLiteral : Reader L Datum) front rest datum) : Tagged front datum := by
  simp only [taggedLiteral, firstOf, reads_orElse] at found
  rcases found with found | ⟨-, found | ⟨-, found | ⟨-, found⟩⟩⟩
  · obtain ⟨value, literal, rfl⟩ := reads_boolean.mp found
    exact .boolean literal
  · obtain ⟨c, literal, -, rfl⟩ := reads_character.mp found
    exact .character literal
  · obtain ⟨radix, digits, rfl, run, -, rfl⟩ := reads_radixInteger.mp found
    exact .radixInteger (.mk radix run)
  · exact absurd found not_reads_nowhere

/-- If a literal with a number sign begins a run of atom characters, one is found there, though
perhaps a longer one: the digits of an integer may go on. -/
lemma not_misses_tagged {front rest : List Char} {datum : Datum} (literal : Tagged front datum)
    (inAtom : ∀ c ∈ front, isAtomChar c = true) :
    ¬ Misses (taggedLiteral : Reader L Datum) (front ++ rest) := by
  rw [taggedLiteral, misses_firstOf]
  intro missing
  cases literal with
  | boolean value =>
      have found : Reads (boolean : Reader L Datum) front rest _ :=
        reads_boolean.mpr ⟨_, value, rfl⟩
      exact found.not_misses (missing _ (by simp))
  | character named =>
      obtain ⟨name, rfl, -⟩ := named.exists_name
      exact absurd (inAtom '\\' (by simp)) (by decide)
  | radixInteger integer =>
      obtain ⟨radix, run⟩ := integer
      obtain ⟨more, rest, rfl, digits, stops⟩ := exists_run radix.isDigit rest
      have found : Reads (radixInteger : Reader L Datum) _ rest _ := reads_radixInteger.mpr
        ⟨radix, _ ++ more, rfl, run.append digits, stops, rfl⟩
      exact found.not_misses (by simpa using missing radixInteger (by simp))

lemma looksTagged_of_tagged {front : List Char} {datum : Datum} (literal : Tagged front datum)
    (rest : List Char) : looksTagged (front ++ rest) = true := by
  cases literal with
  | boolean value => cases value <;> rfl
  | character named =>
      obtain ⟨name, rfl, -⟩ := named.exists_name
      rfl
  | radixInteger integer =>
      obtain ⟨radix, run⟩ := integer
      cases radix <;> rfl

lemma reads_atom {front rest : List Char} {datum : Datum} :
    Reads (atom : Reader L Datum) front rest datum ↔
      ∃ first others, front = first :: others ∧ isAtomStart first = true ∧
        (∀ c ∈ others, isAtomChar c = true) ∧ Stops isAtomChar rest ∧
        (looksTagged (front ++ rest) = true →
          Misses (taggedLiteral : Reader L Datum) (front ++ rest)) ∧
        datum = .atom (String.ofList front) := by
  simp only [atom, reads_bind, reads_checkWhen, reads_satisfy, reads_many, reads_pure]
  constructor
  · rintro ⟨_, left, _, rfl, check, first, _, _, rfl, ⟨rfl, start⟩, _, others, _, rfl,
      ⟨rfl, -, chars, stops⟩, rfl, rfl⟩
    have nothing : left = [] := by
      split at check
      · exact (reads_notAhead.mp check).1
      · exact check
    subst nothing
    refine ⟨first, _, by simp, start, chars, stops, fun looks => ?_, by simp⟩
    simp only [List.nil_append, List.append_nil] at looks check ⊢
    rw [if_pos looks] at check
    exact (reads_notAhead.mp check).2
  · rintro ⟨first, others, rfl, start, chars, stops, free, rfl⟩
    refine ⟨(), [], first :: others, rfl, ?_, first, [first], others, rfl, ⟨rfl, start⟩, others,
      others, [], by simp, ⟨rfl, Nat.zero_le _, chars, stops⟩, rfl, rfl⟩
    split
    · next looks => exact reads_notAhead.mpr ⟨rfl, free looks⟩
    · rfl

/-- What is found as an atom is one: no literal with a number sign begins it. -/
lemma lexeme_of_reads_atom {front rest : List Char} {datum : Datum}
    (found : Reads (atom : Reader L Datum) front rest datum) : Lexeme front datum := by
  obtain ⟨first, others, rfl, start, chars, -, free, rfl⟩ := reads_atom.mp found
  refine .atom start chars fun beginning literal isPrefix tagged => ?_
  have inAtom : ∀ c ∈ first :: others, isAtomChar c = true :=
    List.forall_mem_cons.mpr ⟨isAtomChar_of_isAtomStart start, chars⟩
  obtain ⟨more, split⟩ := isPrefix
  rw [← split, List.append_assoc] at free
  refine not_misses_tagged tagged (fun c member => inAtom c ?_)
    (free (looksTagged_of_tagged tagged _))
  rw [← split]
  exact List.mem_append_left _ member

/-- An atom of the grammar is found.  A literal with a number sign ahead would have to begin the
atom, since it cannot go on beyond it. -/
lemma reads_atom_of_lexeme {first : Char} {others rest : List Char}
    (start : isAtomStart first = true) (chars : ∀ c ∈ others, isAtomChar c = true)
    (free : ∀ (beginning : List Char) (datum : Datum), beginning <+: first :: others →
      ¬ Tagged beginning datum) (delimited : Delimited rest) :
    Reads (atom : Reader L Datum) (first :: others) rest
      (.atom (String.ofList (first :: others))) := by
  refine reads_atom.mpr ⟨first, others, rfl, start, chars, delimited.stops_atomChar, ?_, rfl⟩
  intro _
  rcases Shallow.verdict_cases (taggedLiteral : Reader L Datum) (first :: others ++ rest) with
    ⟨front, rest', datum, split, found⟩ | missing
  -- What is found there either begins the atom, or goes on into text that no literal goes on into.
  · have tagged := tagged_of_reads found
    rcases List.append_eq_append_iff.mp split with ⟨more, rfl, rfl⟩ | ⟨more, whole, -⟩
    · cases more with
      | nil => exact absurd tagged (free _ _ (by simp))
      | cons c more =>
          have goes := tagged.goesOn c (by simp)
          rw [Stops.cons_iff.mp delimited] at goes
          cases goes
    · exact absurd tagged (free front datum ⟨more, whole.symm⟩)
  · exact missing

/-- The number sign is a symbol, so where no atom starts there is nothing to look for. -/
lemma looksTagged_of_stops {ahead : List Char} (other : Stops isAtomStart ahead) :
    looksTagged ahead = false := by
  cases ahead with
  | nil => rfl
  | cons c rest =>
      rw [looksTagged]
      rintro _ _ same
      obtain ⟨rfl, -⟩ := List.cons.inj same
      cases Stops.cons_iff.mp other

lemma misses_atom {ahead : List Char} (other : Stops isAtomStart ahead) :
    Misses (atom : Reader L Datum) ahead := by
  have passed : Reads (checkWhen looksTagged (notAhead (taggedLiteral : Reader L Datum))) []
      ahead () := by
    rw [reads_checkWhen, List.nil_append, looksTagged_of_stops other]
    rfl
  exact passed.bind_misses (misses_satisfy.mpr other).bind

instance : Bounded (atom : Reader L Datum) := by unfold atom; infer_instance

instance : Shallow (atom : Reader L Datum) := by unfold atom; infer_instance

end Reader

end SExpr
