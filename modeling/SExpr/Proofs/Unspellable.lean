import SExpr.Proofs.Spellable

/-!
# What cannot be spelled

A datum is made up of pieces: names, numbers, doubles and characters, of which some can be spelled
and some cannot, in the order in which they would be written.  The datum can be spelled just if all
of them can, and otherwise the first that cannot is the error.

Whether a name can be spelled is decided by reading it.  What that amounts to is said here without a
reader: it is a letter or symbol with letters, symbols and digits behind it, and no truth value and
no integer with a tag begins it.  So `#true` and `#xavier` cannot be spelled, and `#define` can.

* `StartsTagged`, `Nameable` — the names that can be spelled, and `lexeme_atom_iff`, that these are
  the ones the grammar has.
* `Datum.pieces` — the pieces of a datum from left to right.
* `Spelling.Settles` — what a spelling comes to is settled by some pieces; the step is
  `settles_bind`, and `settles_datum` is the induction over the datum.
* `Datum.toText_iff` — which data can be spelled, and the error of all others.
-/

namespace SExpr

open Grammar

/-! ## Names -/

namespace Grammar

/-- A truth value or an integer with a tag stands in front. -/
inductive StartsTagged : List Char → Prop
  | yes (rest : List Char) : StartsTagged ('#' :: 't' :: rest)
  | no (rest : List Char) : StartsTagged ('#' :: 'f' :: rest)
  | digit {radix : Numeral.Radix} {c : Char} (rest : List Char) : radix.isDigit c = true →
      StartsTagged ('#' :: tag radix :: c :: rest)

/-- A letter or symbol, then letters, symbols and digits, with no literal in front. -/
def Nameable (name : List Char) : Prop :=
  (∃ first others, name = first :: others ∧ isAtomStart first = true ∧
    ∀ c ∈ others, isAtomChar c = true) ∧ ¬ StartsTagged name

/-- What a literal with a number sign begins starts so, unless the literal is a character, which has
a backslash. -/
lemma Tagged.startsTagged {text : List Char} {datum : Datum} (literal : Tagged text datum)
    (noBackslash : '\\' ∉ text) (rest : List Char) : StartsTagged (text ++ rest) := by
  cases literal with
  | boolean value =>
      cases value with
      | yes => exact .yes rest
      | no => exact .no rest
  | character named =>
      obtain ⟨name, rfl, -⟩ := named.exists_name
      simp at noBackslash
  | radixInteger integer =>
      obtain ⟨radix, nonempty, digits⟩ := integer
      rename_i run
      cases run with
      | nil => exact absurd rfl nonempty
      | cons c more => exact .digit (more ++ rest) (digits c (by simp))

lemma StartsTagged.exists_tagged {name : List Char} (starts : StartsTagged name) :
    ∃ beginning datum, beginning <+: name ∧ Tagged beginning datum := by
  cases starts with
  | yes rest => exact ⟨['#', 't'], _, ⟨rest, rfl⟩, .boolean .yes⟩
  | no rest => exact ⟨['#', 'f'], _, ⟨rest, rfl⟩, .boolean .no⟩
  | @digit radix c rest taken =>
      exact ⟨['#', tag radix, c], _, ⟨rest, rfl⟩, .radixInteger (.mk radix (.singleton taken))⟩

/-- The atoms of the grammar are those with such names. -/
lemma lexeme_atom_iff {text : List Char} {name : String} :
    Lexeme text (.atom name) ↔ name = String.ofList text ∧ Nameable text := by
  constructor
  · intro lexeme
    cases lexeme with
    | tagged literal => cases literal
    | @atom first others start chars free =>
        refine ⟨rfl, ⟨first, others, rfl, start, chars⟩, fun starts => ?_⟩
        obtain ⟨beginning, datum, isPrefix, literal⟩ := starts.exists_tagged
        exact free beginning datum isPrefix literal
  · rintro ⟨rfl, ⟨first, others, rfl, start, chars⟩, other⟩
    refine .atom start chars fun beginning datum isPrefix literal => other ?_
    obtain ⟨rest, split⟩ := isPrefix
    rw [← split]
    -- No name holds a backslash, so what begins this one is not a character.
    refine literal.startsTagged (fun member => ?_) rest
    have inName : '\\' ∈ first :: others := by simp [← split, member]
    rcases List.mem_cons.mp inName with rfl | later
    · revert start
      decide
    · have refused : isAtomChar '\\' = false := by rfl
      simp [chars _ later] at refused

end Grammar

/-! ## The pieces of a datum -/

namespace Datum

/-- A piece of a datum, of a kind of which not every one can be spelled. -/
inductive Piece where
  | atom (name : String)
  | number (n : Int)
  | double (x : Binary64)
  | character (c : Char)
  deriving DecidableEq, Repr

namespace Piece

/-- A piece can be spelled. -/
def Spellable : Piece → Prop
  | .atom name => Nameable name.toList
  | .number n => 0 ≤ n
  | .double x => x.isFinite = true ∧ x.negative = false
  | .character c => c = ' ' ∨ c = '\n' ∨ Unicode.isLetter c = true

/-- The error of a piece that cannot be spelled. -/
def error : Piece → SpellingError
  | .atom name => .atom name
  | .number n => .negative n
  | .double x => .float x
  | .character c => .character c

end Piece

mutual

/-- The pieces of a datum from left to right: items before the tail, the numerator before the
denominator, the real part before the imaginary one.  Texts and truth values are left out, since all
of them can be spelled. -/
def pieces : Datum → List Piece
  | .atom name => [.atom name]
  | .list items => piecesOfAll items
  | .dotted items tail => piecesOfAll items ++ tail.pieces
  | .integer value => [.number value]
  | .text _ => []
  | .boolean _ => []
  | .character value => [.character value]
  | .float value => [.double value]
  | .ratio value => [.number value.numerator, .number value.denominator]
  | .complex real imaginary => [.double real, .double imaginary]

/-- The pieces of some data from left to right. -/
def piecesOfAll : List Datum → List Piece
  | [] => []
  | first :: rest => first.pieces ++ piecesOfAll rest

end

end Datum

/-! ## What settles a spelling -/

namespace Spelling

open Datum (Piece)

/-- The first of some pieces that cannot be spelled has this error. -/
def FirstOffence (pieces : List Piece) (error : SpellingError) : Prop :=
  ∃ before piece after, pieces = before ++ piece :: after ∧
    (∀ earlier ∈ before, earlier.Spellable) ∧ ¬ piece.Spellable ∧ error = piece.error

lemma not_firstOffence_nil {error : SpellingError} : ¬ FirstOffence [] error := by
  rintro ⟨before, piece, after, split, -⟩
  simp at split

lemma firstOffence_cons_iff {piece : Piece} {pieces : List Piece} {error : SpellingError} :
    FirstOffence (piece :: pieces) error ↔ ¬ piece.Spellable ∧ error = piece.error ∨
      piece.Spellable ∧ FirstOffence pieces error := by
  constructor
  · rintro ⟨before, offender, after, split, good, bad, rfl⟩
    cases before with
    | nil =>
        obtain ⟨rfl, rfl⟩ := List.cons.inj split
        exact .inl ⟨bad, rfl⟩
    | cons first before =>
        obtain ⟨rfl, rfl⟩ := List.cons.inj split
        obtain ⟨spellable, good⟩ := List.forall_mem_cons.mp good
        exact .inr ⟨spellable, before, offender, after, rfl, good, bad, rfl⟩
  · rintro (⟨bad, rfl⟩ | ⟨spellable, before, offender, after, rfl, good, bad, rfl⟩)
    · exact ⟨[], piece, pieces, rfl, by simp, bad, rfl⟩
    · refine ⟨piece :: before, offender, after, rfl, ?_, bad, rfl⟩
      exact List.forall_mem_cons.mpr ⟨spellable, good⟩

/-- Where a piece offends, there is one error, and not all pieces can be spelled. -/
lemma FirstOffence.unique {pieces : List Piece} {error : SpellingError}
    (offence : FirstOffence pieces error) :
    (¬ ∀ piece ∈ pieces, piece.Spellable) ∧ ∀ other, FirstOffence pieces other → other = error := by
  induction pieces with
  | nil => exact absurd offence not_firstOffence_nil
  | cons piece pieces ih =>
      rw [List.forall_mem_cons]
      simp only [firstOffence_cons_iff] at offence ⊢
      rcases offence with ⟨bad, rfl⟩ | ⟨spellable, later⟩
      · simp [bad]
      · simpa [spellable] using ih later

/-- A spelling comes to a text if all pieces can be spelled, and to the error of the first that
cannot. -/
def Settles {α : Type} (pieces : List Piece) : Except SpellingError α → Prop
  | .ok _ => ∀ piece ∈ pieces, piece.Spellable
  | .error error => FirstOffence pieces error

variable {α β : Type} {pieces pieces' : List Piece}

lemma settles_ok (a : α) : Settles [] (.ok a) := by simp [Settles]

lemma settles_single {piece : Piece} {p : Except SpellingError α}
    (good : piece.Spellable → ∃ a, p = .ok a)
    (bad : ¬ piece.Spellable → p = .error piece.error) : Settles [piece] p := by
  by_cases spellable : piece.Spellable
  · obtain ⟨a, rfl⟩ := good spellable
    simpa [Settles] using spellable
  · rw [bad spellable]
    exact firstOffence_cons_iff.mpr (.inl ⟨spellable, rfl⟩)

/-- Of two spellings one after the other, the second matters only if the first one is there. -/
lemma settles_bind {p : Except SpellingError α} {f : α → Except SpellingError β}
    (first : Settles pieces p) (second : ∀ a, Settles pieces' (f a)) :
    Settles (pieces ++ pieces') (p >>= f) := by
  cases p with
  | error error =>
      obtain ⟨before, piece, after, rfl, offence⟩ := first
      exact ⟨before, piece, after ++ pieces', by simp, offence⟩
  | ok a =>
      -- All pieces of the first can be spelled, so they may stand before the offence of the second.
      show Settles (pieces ++ pieces') (f a)
      cases spelled : f a with
      | ok b =>
          have settled := second a
          rw [spelled] at settled
          exact List.forall_mem_append.mpr ⟨first, settled⟩
      | error error =>
          have settled := second a
          rw [spelled] at settled
          obtain ⟨before, piece, after, rfl, good, offence⟩ := settled
          exact ⟨pieces ++ before, piece, after, by simp, List.forall_mem_append.mpr ⟨first, good⟩,
            offence⟩

lemma settles_bind_pure {p : Except SpellingError α} {f : α → β} (only : Settles pieces p) :
    Settles pieces (do let a ← p; pure (f a)) := by
  have whole := settles_bind only fun a => settles_ok (f a)
  rw [List.append_nil] at whole
  exact whole

/-! ## Leaves -/

lemma settles_atom (name : String) : Settles [.atom name] (atom name) := by
  have itself : Lexeme name.toList (.atom name) ↔ Nameable name.toList := by
    simp [lexeme_atom_iff]
  refine settles_single (fun nameable => ?_) fun other => ?_
  · exact ⟨name.toList, if_pos (readsAsAtom_of_lexeme (itself.mpr nameable))⟩
  · refine if_neg fun taken => other (itself.mp (lexeme_of_atom ?_))
    exact if_pos taken

lemma settles_integer (n : Int) : Settles [.number n] (integer n) := by
  refine settles_single (fun natural => ?_) fun negative => ?_
  · obtain ⟨k, rfl⟩ := Int.eq_ofNat_of_zero_le natural
    exact ⟨_, rfl⟩
  · cases n with
    | ofNat k => exact absurd (Int.natCast_nonneg k) negative
    | negSucc k => rfl

lemma settles_character (c : Char) : Settles [.character c] (character c) := by
  refine settles_single (fun spellable => ?_) fun other => ?_
  · rcases spellable with rfl | rfl | letter
    · exact ⟨_, rfl⟩
    · exact ⟨_, rfl⟩
    · exact exists_character_of_lexeme (.letter letter)
  · rw [Piece.Spellable, not_or, not_or] at other
    obtain ⟨noBlank, noLineFeed, noLetter⟩ := other
    rw [character, if_neg noBlank, if_neg noLineFeed, if_neg noLetter]
    rfl

lemma settles_float (x : Binary64) : Settles [.double x] (float x) :=
  settles_single (fun written => ⟨x.positional, if_pos written⟩) fun other => if_neg other

/-! ## Trees -/

mutual

/-- The spelling of a datum is settled by its pieces. -/
lemma settles_datum : ∀ tree : Datum, Settles tree.pieces (datum tree)
  | .atom name => settles_atom name
  | .list items => settles_bind_pure (settles_data items)
  | .dotted items tail =>
      settles_bind (settles_data items) fun _ => settles_bind_pure (settles_datum tail)
  | .integer value => settles_integer value
  | .text _ => settles_ok _
  | .boolean _ => settles_ok _
  | .character value => settles_character value
  | .float value => settles_float value
  | .ratio value =>
      settles_bind (settles_integer value.numerator) fun _ =>
        settles_bind_pure (settles_integer value.denominator)
  | .complex real imaginary =>
      settles_bind (settles_float real) fun _ => settles_bind_pure (settles_float imaginary)

lemma settles_data : ∀ trees : List Datum, Settles (Datum.piecesOfAll trees) (data trees)
  | [] => settles_ok []
  | first :: rest =>
      settles_bind (settles_datum first) fun _ => settles_bind_pure (settles_data rest)

end

end Spelling

namespace Datum

/-- A datum can be spelled just if all its pieces can, and all other data have the error of the
first piece from left to right that cannot. -/
theorem toText_iff (datum : Datum) :
    ((∃ text, datum.toText = .ok text) ↔ ∀ piece ∈ datum.pieces, piece.Spellable) ∧
      ∀ error, datum.toText = .error error ↔ Spelling.FirstOffence datum.pieces error := by
  have settled := Spelling.settles_datum datum
  rw [toText]
  cases spelled : Spelling.datum datum with
  | ok text =>
      rw [spelled] at settled
      refine ⟨iff_of_true ⟨_, rfl⟩ settled, ?_⟩
      intro error
      have noOffence : ¬ Spelling.FirstOffence datum.pieces error := by
        intro offence
        exact offence.unique.1 settled
      simp [Except.map, noOffence]
  | error error =>
      rw [spelled] at settled
      obtain ⟨notAll, only⟩ := settled.unique
      refine ⟨by simp [Except.map, notAll], ?_⟩
      intro other
      constructor
      · intro same
        cases same
        exact settled
      · intro offence
        rw [only other offence]
        rfl

/-- In `(a (#xavier . -1) 1)` the name is what cannot be spelled; the negative number is behind
it. -/
example : (list [.atom "a", .dotted [.atom "#xavier"] (.integer (-1)), .integer 1]).toText =
    .error (.atom "#xavier") := by rfl

end Datum

end SExpr
