import Mathlib.Logic.ExistsUnique
import SExpr.Proofs.Parallel.Readers
import SExpr.Proofs.Session.Attempt

/-!
# Atoms are what is left over

The number sign may start an atom, but truth values, characters and integers with a tag start with
it too.  Atoms are what these leave over: an atom is found where a letter or a symbol is ahead and
none of the three finds anything.  So behind a number sign exactly one of the four is found.

To tell, the reader of atoms tries the three, but only where the character behind the number sign is
one that they could go on with.  This saves time and changes nothing else, because where one of them
is found the character is such a one.

* `Reader.atomLooking` — the reader of atoms with any other occasion to look.
* `verdict_looking` — looking more often comes to the same.
* `Recognizer.ofSign` — the character behind a number sign tells the three apart.
* `Session.attempt_atom` — atoms from any state of a session.
-/

namespace SExpr

namespace Reader

variable {L : Type} [Log L] {front rest ahead : List Char} {datum : Datum}

/-! ## When to look -/

/-- Read an atom, looking for other literals where the text ahead calls for it. -/
def atomLooking (called : List Char → Bool) : Reader L Datum := do
  checkWhen called (notAhead taggedLiteral)
  let first ← satisfy isAtomStart "letter or symbol"
  let rest ← many isAtomChar "letter, digit or symbol" 0
  return .atom (String.ofList (first :: rest))

/-- Where the text does not look like one of the other literals, none is there. -/
lemma misses_tagged_of_looks (other : looksTagged ahead = false) :
    Misses (taggedLiteral : Reader L Datum) ahead := by
  rcases Shallow.verdict_cases (taggedLiteral : Reader L Datum) ahead with
    ⟨front, rest, datum, rfl, found⟩ | missing
  · rw [looksTagged_of_tagged (tagged_of_reads found) rest] at other
    cases other
  · exact missing

/-- It makes no difference to look where the text does not look like one of the other literals. -/
lemma verdict_looking {called : List Char → Bool}
    (wider : ∀ ahead, looksTagged ahead = true → called ahead = true) (ahead : List Char) :
    (checkWhen called (notAhead (taggedLiteral : Reader L Datum)) ahead).verdict =
      (checkWhen looksTagged (notAhead (taggedLiteral : Reader L Datum)) ahead).verdict := by
  simp only [checkWhen]
  cases looks : looksTagged ahead with
  | true => rw [if_pos (wider ahead looks), if_pos rfl]
  | false =>
      have missing : Misses (taggedLiteral : Reader L Datum) ahead := misses_tagged_of_looks looks
      rw [Misses] at missing
      split
      · rw [verdict_notAhead, missing]
        rfl
      · rfl

lemma verdict_atomLooking {called : List Char → Bool}
    (wider : ∀ ahead, looksTagged ahead = true → called ahead = true) (ahead : List Char) :
    (atomLooking called ahead : Outcome L Datum).verdict =
      (atom ahead : Outcome L Datum).verdict := by
  have looking : Follows False (fun (_ : L) (_ : L) => True)
      (checkWhen called (notAhead taggedLiteral))
      (checkWhen looksTagged (notAhead taggedLiteral)) :=
    .of_agree fun ahead => ⟨verdict_looking wider ahead, trivial⟩
  have follows : Follows False (fun (_ : L) (_ : L) => True) (atomLooking called) atom := by
    unfold atomLooking atom
    infer_instance
  exact follows.verdict_eq ahead

/-! ## What is left over -/

/-- Nothing is left for an atom where one of the other literals is found, and where none is a letter
or a symbol starts one. -/
lemma exists_atom_iff : (∃ front rest datum, ahead = front ++ rest ∧
      Reads (atom : Reader L Datum) front rest datum) ↔
    (∃ c ∈ ahead.head?, isAtomStart c = true) ∧
      Misses (taggedLiteral : Reader L Datum) ahead := by
  constructor
  · rintro ⟨front, rest, datum, rfl, found⟩
    have missing := misses_tagged_of_reads_atom found
    obtain ⟨first, others, rfl, start, -⟩ := reads_atom.mp found
    exact ⟨⟨first, rfl, start⟩, missing⟩
  · rintro ⟨⟨first, isFirst, start⟩, missing⟩
    obtain ⟨behind, rfl⟩ := List.head?_eq_some_iff.mp isFirst
    obtain ⟨others, rest, rfl, chars, stops⟩ := exists_run isAtomChar behind
    exact ⟨first :: others, rest, _, rfl,
      reads_atom.mpr ⟨first, others, rfl, start, chars, stops, fun _ => missing, rfl⟩⟩

end Reader

open Reader

/-! ## Behind a number sign -/

namespace Recognizer

variable {L : Type} [Log L] {composites : Bool} {room : Nat} {front rest ahead : List Char}
  {datum : Datum} {recognizer : Recognizer}

/-- The readers of literals, other than atoms, that start with a number sign. -/
def tagged : List Recognizer := [.boolean, .character, .radixInteger]

/-- The reader that the character behind a number sign is for, if it is for one of these. -/
def ofSign : Char → Recognizer
  | 't' => .boolean
  | 'f' => .boolean
  | '\\' => .character
  | _ => .radixInteger

/-- What is found behind a number sign is found by the reader that the next character is for. -/
lemma eq_ofSign (member : recognizer ∈ tagged)
    (found : Reads (recognizer.reader composites room : Reader L Datum) front rest datum) :
    ∃ c more, front = '#' :: c :: more ∧ recognizer = ofSign c := by
  simp only [tagged, List.mem_cons, List.not_mem_nil, or_false] at member
  rcases member with rfl | rfl | rfl
  · obtain ⟨value, literal, -⟩ := reads_boolean.mp found
    cases literal with
    | yes => exact ⟨'t', [], rfl, rfl⟩
    | no => exact ⟨'f', [], rfl, rfl⟩
  · obtain ⟨c, named, -⟩ := reads_character.mp found
    obtain ⟨name, rfl, -⟩ := named.exists_name
    exact ⟨'\\', name, rfl, rfl⟩
  · obtain ⟨radix, digits, rfl, -⟩ := reads_radixInteger.mp found
    exact ⟨_, digits, rfl, by cases radix <;> rfl⟩

lemma shallow_of_tagged (member : recognizer ∈ tagged) :
    Shallow (recognizer.reader composites room : Reader L Datum) := by
  simp only [tagged, List.mem_cons, List.not_mem_nil, or_false] at member
  rcases member with rfl | rfl | rfl <;> unfold Recognizer.reader <;> infer_instance

lemma misses_taggedLiteral_iff : Misses (taggedLiteral : Reader L Datum) ahead ↔
    ∀ recognizer ∈ tagged, Misses (recognizer.reader composites room : Reader L Datum) ahead := by
  rw [taggedLiteral, misses_firstOf]
  simp only [tagged, List.forall_mem_cons, List.not_mem_nil, false_implies, implies_true]
  rfl

end Recognizer

namespace Session

/-- Whether a reader of expressions finds something at an offset. -/
def Finds (session : Session) (offset : Nat) (recognizer : Recognizer) : Prop :=
  ∃ datum stop, (session.attempt (session.reader recognizer) offset).1 = .found datum stop

variable {session : Session} {offset stop : Nat} {recognizer other : Recognizer} {datum : Datum}

lemma finds_iff : session.Finds offset recognizer ↔
    ∃ front rest datum, session.source.drop offset = front ++ rest ∧
      Reads (session.reader recognizer : Reader Trace Datum) front rest datum := by
  simp only [Finds, attempt_eq_found_iff]
  constructor
  · rintro ⟨datum, _, front, rest, split, found, rfl⟩
    exact ⟨front, rest, datum, split, found⟩
  · rintro ⟨front, rest, datum, split, found⟩
    exact ⟨datum, _, front, rest, split, found, rfl⟩

lemma not_finds_iff_of_tagged (member : recognizer ∈ Recognizer.tagged) :
    ¬ session.Finds offset recognizer ↔
      Misses (session.reader recognizer : Reader Trace Datum) (session.source.drop offset) := by
  have shallow : Shallow (session.reader recognizer : Reader Trace Datum) :=
    Recognizer.shallow_of_tagged member
  rw [finds_iff]
  constructor
  · intro nothing
    rcases Shallow.verdict_cases (session.reader recognizer : Reader Trace Datum)
      (session.source.drop offset) with ⟨front, rest, datum, split, found⟩ | missing
    · exact absurd ⟨front, rest, datum, split, found⟩ nothing
    · exact missing
  · rintro missing ⟨front, rest, datum, split, found⟩
    rw [split] at missing
    exact found.not_misses missing

/-- An atom is found where a letter or a symbol stands and no literal with a number sign is. -/
lemma finds_atom_iff : session.Finds offset .atom ↔
    (∃ c ∈ session.source[offset]?, isAtomStart c = true) ∧
      ∀ recognizer ∈ Recognizer.tagged, ¬ session.Finds offset recognizer := by
  have leftOver : session.Finds offset .atom ↔ _ := finds_iff.trans exists_atom_iff
  rw [leftOver, List.head?_drop]
  have noTagged : Misses (taggedLiteral : Reader Trace Datum) (session.source.drop offset) ↔
      ∀ recognizer ∈ Recognizer.tagged,
        Misses (session.reader recognizer : Reader Trace Datum) (session.source.drop offset) :=
    Recognizer.misses_taggedLiteral_iff
  rw [noTagged]
  exact and_congr_right fun _ =>
    forall₂_congr fun recognizer member => (not_finds_iff_of_tagged member).symm

/-- No two literals with a number sign are found at one place. -/
lemma eq_of_finds_tagged (member : recognizer ∈ Recognizer.tagged)
    (member' : other ∈ Recognizer.tagged) (found : session.Finds offset recognizer)
    (found' : session.Finds offset other) : recognizer = other := by
  obtain ⟨front, rest, datum, split, found⟩ := finds_iff.mp found
  obtain ⟨front', rest', datum', split', found'⟩ := finds_iff.mp found'
  obtain ⟨c, more, rfl, rfl⟩ := Recognizer.eq_ofSign member found
  obtain ⟨c', more', rfl, rfl⟩ := Recognizer.eq_ofSign member' found'
  have same : '#' :: c :: (more ++ rest) = '#' :: c' :: (more' ++ rest') := split.symm.trans split'
  obtain ⟨rfl, -⟩ := List.cons.inj (List.cons.inj same).2
  rfl

/-- Behind a number sign one of the four is found, and only one. -/
lemma existsUnique_finds (sign : session.source[offset]? = some '#') :
    ∃! recognizer, recognizer ∈ .atom :: Recognizer.tagged ∧ session.Finds offset recognizer := by
  have isAtom : session.Finds offset .atom ↔
      ∀ recognizer ∈ Recognizer.tagged, ¬ session.Finds offset recognizer := by
    rw [finds_atom_iff, sign]
    exact and_iff_right ⟨'#', rfl, rfl⟩
  by_cases nothing : ∀ recognizer ∈ Recognizer.tagged, ¬ session.Finds offset recognizer
  · refine ⟨.atom, ⟨List.mem_cons_self, isAtom.mpr nothing⟩, ?_⟩
    rintro other ⟨member, found⟩
    rcases List.mem_cons.mp member with rfl | member
    · rfl
    · exact absurd found (nothing other member)
  · obtain ⟨recognizer, member, found⟩ : ∃ recognizer ∈ Recognizer.tagged,
        session.Finds offset recognizer := by
      simpa using nothing
    refine ⟨recognizer, ⟨List.mem_cons_of_mem _ member, found⟩, ?_⟩
    rintro other ⟨member', found'⟩
    rcases List.mem_cons.mp member' with rfl | member'
    · exact absurd found (isAtom.mp found' recognizer member)
    · exact eq_of_finds_tagged member' member found' found

/-- Where an atom ends: at the first character behind its first one that cannot go on an atom, or at
the end of the text. -/
lemma atom_ends (found : (session.attempt (session.reader .atom) offset).1 = .found datum stop) :
    datum = .atom (String.ofList ((session.source.drop offset).take (stop - offset))) ∧
      offset < stop ∧ stop ≤ session.source.length ∧
      (∀ place, offset < place → place < stop →
        ∃ c ∈ session.source[place]?, isAtomChar c = true) ∧
      ∀ c ∈ session.source[stop]?, isAtomChar c = false := by
  obtain ⟨front, rest, split, isAtom, rfl⟩ : ∃ front rest,
      session.source.drop offset = front ++ rest ∧
        Reads (atom : Reader Trace Datum) front rest datum ∧ stop = offset + front.length :=
    attempt_eq_found_iff.mp found
  obtain ⟨first, others, rfl, -, chars, stops, -, rfl⟩ := reads_atom.mp isAtom
  have behind (n : Nat) : session.source[offset + n]? = (first :: others ++ rest)[n]? := by
    rw [← split, List.getElem?_drop]
  refine ⟨by simp [split], by simp, ?_, fun place after before => ?_, fun c stands => ?_⟩
  · have lengths := congrArg List.length split
    rw [List.length_drop, List.length_append] at lengths
    simp only [List.length_cons] at lengths ⊢
    omega
  · obtain ⟨n, rfl⟩ : ∃ n, place = offset + (n + 1) := ⟨place - offset - 1, by omega⟩
    have inside : n < others.length := by
      rw [List.length_cons] at before
      omega
    refine ⟨others[n], ?_, chars _ (List.getElem_mem inside)⟩
    rw [behind, List.cons_append, List.getElem?_cons_succ, List.getElem?_append_left inside]
    exact List.getElem?_eq_getElem inside
  · rw [behind, List.getElem?_append_right (Nat.le_refl _), Nat.sub_self] at stands
    exact stops c (List.head?_eq_getElem?.trans stands)

/-- From any state of a session and at any offset an atom is found just if a letter or a symbol
stands there and no truth value, character or integer with a tag is found; it goes up to the first
character that cannot go on it.  It makes no difference whether these three are looked for more
often than where the character behind a number sign calls for it.  Behind a number sign just one of
the four is found. -/
theorem attempt_atom (session : Session) (offset : Nat) :
    (session.Finds offset .atom ↔ (∃ c ∈ session.source[offset]?, isAtomStart c = true) ∧
      ¬ session.Finds offset .boolean ∧ ¬ session.Finds offset .character ∧
        ¬ session.Finds offset .radixInteger) ∧
    (∀ datum stop, (session.attempt (session.reader .atom) offset).1 = .found datum stop →
      datum = .atom (String.ofList ((session.source.drop offset).take (stop - offset))) ∧
      offset < stop ∧ stop ≤ session.source.length ∧
      (∀ place, offset < place → place < stop →
        ∃ c ∈ session.source[place]?, isAtomChar c = true) ∧
      ∀ c ∈ session.source[stop]?, isAtomChar c = false) ∧
    (∀ called : List Char → Bool, (∀ ahead, looksTagged ahead = true → called ahead = true) →
      (session.attempt (atomLooking called) offset).1 =
        (session.attempt (session.reader .atom) offset).1) ∧
    (session.source[offset]? = some '#' → ∃! recognizer,
      recognizer ∈ [.atom, .boolean, .character, .radixInteger] ∧
        session.Finds offset recognizer) := by
  refine ⟨?_, fun datum stop => atom_ends, fun called wider => ?_, existsUnique_finds⟩
  · rw [finds_atom_iff]
    simp [Recognizer.tagged]
  · exact congrArg (Verdict.shift offset) (verdict_atomLooking wider _)

/-- In front of `#dog` the tag of an integer stands, but no digits are behind it, so what is found
is the atom; that it is the only one of the four, and that nothing changes if every number sign is
an occasion to look. -/
theorem attempt_atom_dog :
    (start "(#dog)".toList {}).Finds 1 .atom ∧
      (∃! recognizer, recognizer ∈ [.atom, .boolean, .character, .radixInteger] ∧
        (start "(#dog)".toList {}).Finds 1 recognizer) ∧
      ((start "(#dog)".toList {}).attempt
        (atomLooking fun ahead => ahead.head? == some '#') 1).1 = .found (.atom "#dog") 5 := by
  obtain ⟨-, -, looking, single⟩ := attempt_atom (start "(#dog)".toList {}) 1
  refine ⟨⟨.atom "#dog", 5, rfl⟩, single rfl, (looking _ fun ahead looks => ?_).trans rfl⟩
  cases ahead with
  | nil => cases looks
  | cons c rest =>
      rw [looksTagged.eq_def] at looks
      split at looks
      · next same => cases same; rfl
      · cases looks

end Session

end SExpr
