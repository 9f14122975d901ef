import SExpr.Proofs.Spelling
import SExpr.RoundTrip

/-!
# What has been read can be spelled

A datum that some reading found has a spelling unless it holds an infinity, which is what a numeral
too large for any double is read as.  An atom needs the closest look: its name was read in front of
other text, and is now read alone.  It is a lexeme, and a lexeme is one wherever it stands.

* `Spelling.exists_leaf_iff` — a leaf that is a lexeme can be spelled unless it is infinite.
* `Spelling.exists_datum_iff` — so can a datum that is derived, by induction on the derivation.
* `Entry.Derives.exists_derives` — what an entry reads is derived as an expression, if only from
  another text.
* `Entry.toText_of_readDatum` — what any reading found can be spelled unless it holds an infinity,
  and is then read back.
* `RoundTrip.ofText_iff`, `agrees_of_ofText` — so where a text is read, spelled and read
  again, both readings agree.
-/

namespace SExpr

open Grammar

namespace Spelling

/-! ## Leaves -/

/-- An atom that is a lexeme is taken for itself when it is read alone. -/
lemma readsAsAtom_of_lexeme {name : String} (lexeme : Lexeme name.toList (.atom name)) :
    readsAsAtom name = true := by
  have found : Datum.ofText name { strict := true } = .ok (.atom name) :=
    Entry.readDatum_of_le (.expression (.lexeme lexeme)) (Nat.zero_le _)
  unfold readsAsAtom
  rw [found]
  exact beq_self_eq_true name

lemma exists_float_iff {x : Binary64} (read : ∃ numerator denominator,
    x = .nearest numerator denominator) :
    (∃ text, float x = .ok text) ↔ x.isInfinite = false := by
  obtain ⟨n, d, rfl⟩ := read
  rw [← Binary64.isFinite_nearest_iff, float]
  constructor
  · rintro ⟨text, spelled⟩
    split at spelled
    · next written => exact written.1
    · cases spelled
  · intro finite
    exact ⟨_, if_pos ⟨finite, Binary64.negative_nearest n d⟩⟩

lemma exists_pure_iff {α β : Type} {p : Except SpellingError α} {f : α → β} :
    (∃ b, (do let a ← p; pure (f a)) = .ok b) ↔ ∃ a, p = .ok a := by
  constructor
  · rintro ⟨b, spelled⟩
    obtain ⟨a, found, -⟩ := exists_of_bind spelled
    exact ⟨a, found⟩
  · rintro ⟨a, found⟩
    exact ⟨f a, by rw [found]; rfl⟩

/-- Two parts are spelled together if each is spelled. -/
lemma exists_both_iff {α β γ : Type} {p : Except SpellingError α} {q : Except SpellingError β}
    {f : α → β → γ} :
    (∃ c, (do let a ← p; let b ← q; pure (f a b)) = .ok c) ↔
      (∃ a, p = .ok a) ∧ ∃ b, q = .ok b := by
  constructor
  · rintro ⟨c, spelled⟩
    obtain ⟨a, first, rest⟩ := exists_of_bind spelled
    obtain ⟨b, second, -⟩ := exists_of_bind rest
    exact ⟨⟨a, first⟩, b, second⟩
  · rintro ⟨⟨a, first⟩, b, second⟩
    exact ⟨f a b, by rw [first, second]; rfl⟩

lemma exists_character_of_lexeme {text : List Char} {c : Char}
    (literal : Grammar.Character text c) : ∃ text, character c = .ok text := by
  unfold character
  cases literal with
  | letter letter =>
      split
      · exact ⟨_, rfl⟩
      · split
        · exact ⟨_, rfl⟩
        · exact ⟨_, rfl⟩
  | space _ => exact ⟨_, rfl⟩
  | newline _ => exact ⟨_, rfl⟩

lemma exists_integer (n : Nat) : ∃ text, integer n = .ok text := ⟨_, rfl⟩

/-- A leaf that is a lexeme can be spelled unless it is infinite. -/
lemma exists_leaf_iff {text : List Char} {leaf : Datum} (lexeme : Lexeme text leaf) :
    (∃ text, datum leaf = .ok text) ↔ leaf.holdsInfinity = false := by
  cases lexeme with
  | @atom first others start chars free =>
      have itself : Lexeme (String.ofList (first :: others)).toList
          (.atom (String.ofList (first :: others))) := by
        rw [String.toList_ofList]
        exact .atom start chars free
      exact iff_of_true ⟨_, if_pos (readsAsAtom_of_lexeme itself)⟩ rfl
  | text _ => exact iff_of_true ⟨_, rfl⟩ rfl
  | tagged literal =>
      cases literal with
      | boolean _ => exact iff_of_true ⟨_, rfl⟩ rfl
      | character literal => exact iff_of_true (exists_character_of_lexeme literal) rfl
      | radixInteger _ => exact iff_of_true ⟨_, rfl⟩ rfl
  | integer _ => exact iff_of_true ⟨_, rfl⟩ rfl
  | float _ _ => exact exists_float_iff ⟨_, _, rfl⟩
  | @ratio upper lower value _ _ same same' =>
      refine iff_of_true (exists_both_iff.mpr ?_) rfl
      rw [same, same']
      exact ⟨exists_integer _, exists_integer _⟩
  | complex first second =>
      refine exists_both_iff.trans ?_
      rw [exists_float_iff first.exists_nearest, exists_float_iff second.exists_nearest,
        ← Bool.or_eq_false_iff]
      rfl

/-! ## Trees -/

lemma exists_data_iff {trees : List Datum} :
    (∃ texts, data trees = .ok texts) ↔ ∀ tree ∈ trees, ∃ text, datum tree = .ok text := by
  induction trees with
  | nil => exact iff_of_true ⟨[], rfl⟩ (by simp)
  | cons tree trees ih =>
      rw [List.forall_mem_cons, ← ih]
      exact exists_both_iff

/-- Data can be spelled unless one of them holds an infinity, if that is so of each. -/
lemma exists_data_iff_of_forall {trees : List Datum}
    (each : ∀ tree ∈ trees, (∃ text, datum tree = .ok text) ↔ tree.holdsInfinity = false) :
    (∃ texts, data trees = .ok texts) ↔ Datum.anyHoldsInfinity trees = false := by
  rw [exists_data_iff, Datum.anyHoldsInfinity_eq_false_iff]
  exact forall₂_congr each

/-- The name of the atom that stands in front of a quoted datum is a lexeme. -/
lemma lexeme_quote : Lexeme "quote".toList (.atom "quote") := by
  have found : Datum.ofText "quote" { strict := true } = .ok (.atom "quote") := by rfl
  have derives := (Entry.derives_of_readDatum found rfl).1
  exact (Entry.derives_expression_iff.mp derives).lexeme_of_leaf rfl

/-- What is derived can be spelled unless it holds an infinity. -/
lemma exists_datum_iff {composites : Bool} {text : List Char} {tree : Datum}
    (derives : Derives composites text tree) :
    (∃ text, datum tree = .ok text) ↔ tree.holdsInfinity = false := by
  refine Derives.induction
    (P := fun _ tree => (∃ text, datum tree = .ok text) ↔ tree.holdsInfinity = false)
    exists_leaf_iff ?_ ?_ ?_ derives
  · intro text quotee _ spells
    refine exists_pure_iff.trans (exists_data_iff_of_forall ?_)
    rw [List.forall_mem_cons, List.forall_mem_singleton]
    exact ⟨exists_leaf_iff lexeme_quote, spells⟩
  · intro text blank trees _ items _
    have each : ∀ tree ∈ trees, (∃ text, datum tree = .ok text) ↔ tree.holdsInfinity = false :=
      items.forall_mem fun _ _ spells => spells
    exact exists_pure_iff.trans (exists_data_iff_of_forall each)
  · intro text blank trees tail _ dotted _
    obtain ⟨items, ⟨_, spells⟩⟩ := dotted
    refine exists_both_iff.trans ?_
    rw [exists_data_iff_of_forall (items.forall_mem fun _ _ spells => spells), spells,
      ← Bool.or_eq_false_iff]
    rfl

end Spelling

/-! ## What has been read -/

/-- What an entry reads is derived as an expression, if only from the text in parentheses. -/
lemma Entry.Derives.exists_derives {composites : Bool} {entry : Entry} {text : List Char}
    {datum : Datum} (derives : entry.Derives composites text datum) :
    ∃ text, Grammar.Derives true text datum := by
  have allowing : ∀ text datum, Grammar.Derives composites text datum →
      Grammar.Derives true text datum := fun _ _ => Grammar.Derives.allowing
  cases derives with
  | expression derives => exact ⟨_, derives.allowing⟩
  | list items => exact ⟨_, .list rfl (items.mono allowing) blank_nil⟩
  | dottedList items => exact ⟨_, .dotted rfl (items.mono allowing) blank_nil⟩
  | quoted derives => exact ⟨_, .quoted rfl derives.allowing⟩

/-- A reading that found a datum read it in some beginning of the text. -/
lemma Entry.exists_derives_of_readDatum {entry : Entry} {options : Options} {source : String}
    {datum : Datum} (read : entry.readDatum options source = .ok datum) :
    ∃ text, Grammar.Derives true text datum := by
  obtain ⟨front, rest, -, -, found⟩ := Entry.readDatum_eq_ok_iff.mp read
  exact (Entry.derives_of_reads found).1.exists_derives

namespace Entry

/-- What any reading found has no spelling just if it holds an infinity; and its spelling is read
back as it wherever the limit of nesting allows its height. -/
theorem toText_of_readDatum {entry : Entry} {options : Options} {source : String} {datum : Datum}
    (read : entry.readDatum options source = .ok datum) :
    ((∃ error, datum.toText = .error error) ↔ datum.holdsInfinity = true) ∧
    ∀ text, datum.toText = .ok text → ∀ maxDepth : Int, datum.height ≤ maxDepth →
      Datum.ofText text { strict := true, composites := true, maxDepth } = .ok datum ∧
        datum.same datum = true := by
  obtain ⟨front, derives⟩ := exists_derives_of_readDatum read
  constructor
  · have spells := Spelling.exists_datum_iff derives
    rw [Datum.toText]
    cases written : Spelling.datum datum with
    | ok text =>
        have finite : datum.holdsInfinity = false := spells.mp ⟨text, written⟩
        simp [Except.map, finite]
    | error error =>
        have infinite : datum.holdsInfinity = true := by
          cases holds : datum.holdsInfinity with
          | true => rfl
          | false =>
              obtain ⟨text, spelled⟩ := spells.mpr holds
              rw [written] at spelled
              cases spelled
        simp [Except.map, infinite]
  · intro text spelled maxDepth low
    have written := Datum.derives_of_toText spelled
    have low' : datum.height ≤ maxDepth.toNat := by omega
    exact ⟨readDatum_of_le (.expression written) low', written.same_self⟩

/-- A list whose last atom is cut off by a backslash is read, can be spelled, and is read back. -/
theorem toText_of_readDatum_cut :
    Entry.list.readDatum {} "1/2 #x1 #o8\\" =
        .ok (.list [.ratio ⟨1, 2, by decide⟩, .integer 1, .atom "#o8"]) ∧
      (¬ ∃ error, (Datum.list [.ratio ⟨1, 2, by decide⟩, .integer 1, .atom "#o8"]).toText =
        .error error) ∧
      Datum.ofText "(1/2 1 #o8)" { strict := true, composites := true, maxDepth := 1 } =
        .ok (.list [.ratio ⟨1, 2, by decide⟩, .integer 1, .atom "#o8"]) := by
  have read : Entry.list.readDatum {} "1/2 #x1 #o8\\" =
      .ok (.list [.ratio ⟨1, 2, by decide⟩, .integer 1, .atom "#o8"]) := by rfl
  have spelled : (Datum.list [.ratio ⟨1, 2, by decide⟩, .integer 1, .atom "#o8"]).toText =
      .ok "(1/2 1 #o8)" := by rfl
  refine ⟨read, ?_, ((toText_of_readDatum read).2 _ spelled 1 (by decide)).1⟩
  rw [(toText_of_readDatum read).1]
  decide

end Entry

/-! ## Reading what was spelled -/

namespace RoundTrip

variable {source text : String} {options : Options} {first second : Datum} {trip : RoundTrip}

lemma eq_ok_of_mapError {ε ε' α : Type} {result : Except ε α} {f : ε → ε'} {a : α}
    (succeeded : result.mapError f = .ok a) : result = .ok a := by
  cases result with
  | error error => cases succeeded
  | ok b => exact congrArg Except.ok (Except.ok.inj succeeded)

/-- A spelling is read again unless what it spells is too high for a reading that sets no limit of
its own. -/
lemma ofText_spelling_iff (spelled : first.toText = .ok text) :
    Datum.ofText text { strict := true, composites := true } = .ok second ↔
      first.height ≤ 64 ∧ second = first := by
  have written := Datum.derives_of_toText spelled
  rcases Nat.lt_or_ge 64 first.height with high | low
  · obtain ⟨offset, refused⟩ : ∃ offset,
        Datum.ofText text { strict := true, composites := true } =
          .error ⟨text.toList, offset, .tooDeep 64⟩ :=
      Entry.readDatum_of_lt (.expression written) high
    rw [refused]
    constructor
    · intro read
      cases read
    · rintro ⟨low, -⟩
      exact absurd low (Nat.not_le.mpr high)
  · have read : Datum.ofText text { strict := true, composites := true } = .ok first :=
      Entry.readDatum_of_le (.expression written) low
    rw [read, Except.ok.injEq, eq_comm]
    exact (and_iff_right low).symm

/-- A text makes the round just if it is read, what was read can be spelled, and that is no higher
than a reading allows that sets no limit of its own; and then both readings find the same. -/
theorem ofText_iff : ofText source options = .ok trip ↔
    Datum.ofText source options = .ok trip.first ∧ trip.first.toText = .ok trip.text ∧
      trip.first.height ≤ 64 ∧ trip.second = trip.first := by
  obtain ⟨first, text, second⟩ := trip
  constructor
  · intro made
    obtain ⟨datum, read, made⟩ := Spelling.exists_of_bind made
    obtain ⟨spelling, spelled, made⟩ := Spelling.exists_of_bind made
    obtain ⟨reread, again, made⟩ := Spelling.exists_of_bind made
    cases made
    have written := eq_ok_of_mapError spelled
    exact ⟨eq_ok_of_mapError read, written,
      (ofText_spelling_iff written).mp (eq_ok_of_mapError again)⟩
  · rintro ⟨read, spelled, low, same⟩
    have again := (ofText_spelling_iff spelled).mpr ⟨low, same⟩
    rw [ofText, read]
    show (first.toText.mapError _ >>= _) = _
    rw [spelled]
    show ((Datum.ofText text _).mapError _ >>= _) = _
    rw [again]
    rfl

/-- Whatever makes the round comes back as it was, in the sense in which data are compared. -/
theorem agrees_of_ofText (made : ofText source options = .ok trip) : trip.agrees = true := by
  obtain ⟨read, spelled, -, same⟩ := ofText_iff.mp made
  rw [agrees, same]
  exact (Datum.derives_of_toText spelled).same_self

end RoundTrip

end SExpr
