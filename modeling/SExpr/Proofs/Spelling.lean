import SExpr.Proofs.Acceptance
import SExpr.Proofs.Binary64
import SExpr.Spelling

/-!
# Spellings are derived

What is written for a datum is a text from which the grammar derives that datum.  Of the round trip
only this is about spelling; that the text is read back is what the grammar is for.

* `Spelling.lexeme_of_leaf` — a leaf is written as a lexeme.
* `Spelling.derives_of_datum` — a datum is written as an expression, by induction on the datum.
* `Datum.ofText_toText` — the round trip, with the limit of nesting at which it ends.
-/

namespace SExpr

open Grammar

/-! ## What is derived is a number where it should be one -/

namespace Grammar

lemma Part.exists_nearest {text : List Char} {x : Binary64} (part : Part text x) :
    ∃ numerator denominator, x = .nearest numerator denominator := by
  cases part with
  | whole _ => exact ⟨_, 1, rfl⟩
  | decimal _ _ => exact ⟨_, _, rfl⟩

lemma Lexeme.same_self {text : List Char} {datum : Datum} (lexeme : Lexeme text datum) :
    datum.same datum = true := by
  cases lexeme with
  | atom _ _ _ => exact beq_self_eq_true _
  | text _ => exact beq_self_eq_true _
  | tagged literal => cases literal <;> exact beq_self_eq_true _
  | integer _ => exact beq_self_eq_true _
  | float _ _ => exact Binary64.same_self (Binary64.isNaN_nearest _ _)
  | ratio _ _ _ _ => exact beq_self_eq_true _
  | complex first second =>
      obtain ⟨n, d, rfl⟩ := first.exists_nearest
      obtain ⟨n', d', rfl⟩ := second.exists_nearest
      rw [Datum.same, Binary64.same_self (Binary64.isNaN_nearest n d),
        Binary64.same_self (Binary64.isNaN_nearest n' d'), Bool.and_self]

/-- What is derived is the same as itself: nothing in it is not a number. -/
lemma Derives.same_self {composites : Bool} {text : List Char} {datum : Datum}
    (derives : Derives composites text datum) : datum.same datum = true := by
  refine Derives.induction (P := fun _ datum => datum.same datum = true) Lexeme.same_self
    ?_ ?_ ?_ derives
  · intro text datum _ same
    simp only [Datum.quote, Datum.same, Datum.sameAll, same, beq_self_eq_true, Bool.and_self]
  · intro text blank data _ items _
    exact Datum.sameAll_self_iff.mpr (items.forall_mem fun _ _ same => same)
  · intro text blank data tail _ dotted _
    obtain ⟨items, ⟨_, same⟩⟩ := dotted
    rw [Datum.same, Datum.sameAll_self_iff.mpr (items.forall_mem fun _ _ same => same), same,
      Bool.and_self]

end Grammar

namespace Spelling

/-! ## Leaves -/

lemma textBody_escaped (content : List Char) : TextBody (content.flatMap escaped) content := by
  induction content with
  | nil => exact .nil
  | cons c rest ih =>
      rw [List.flatMap_cons]
      unfold escaped
      split
      · exact .escape .backslash ih
      · exact .escape .quotationMark ih
      · exact .escape .lineFeed ih
      · exact .escape .carriageReturn ih
      · exact .escape .tab ih
      · next backslash quotationMark _ _ _ => exact .plain backslash quotationMark ih

/-- A name that is written as an atom is read as one wherever it stands, since the grammar knows no
context. -/
lemma lexeme_of_atom {name : String} {text : List Char} (spelled : atom name = .ok text) :
    Lexeme text (.atom name) := by
  rw [atom] at spelled
  split at spelled
  · next reads =>
      cases spelled
      unfold readsAsAtom at reads
      split at reads
      · next other found =>
          obtain rfl : other = name := by simpa using reads
          have derives := (Entry.derives_of_readDatum found rfl).1
          exact (Entry.derives_expression_iff.mp derives).lexeme_of_leaf rfl
      · cases reads
  · cases spelled

lemma digits_of_integer {value : Int} {text : List Char} (spelled : integer value = .ok text) :
    IsRun Char.isDigit text ∧ value = Numeral.value 10 text := by
  cases value with
  | negSucc n => cases spelled
  | ofNat n =>
      cases spelled
      rw [Numeral.value_decimalDigits]
      exact ⟨Numeral.isRun_decimalDigits n, rfl⟩

lemma character_of_spelling {c : Char} {text : List Char} (spelled : character c = .ok text) :
    Grammar.Character text c := by
  rw [character] at spelled
  split at spelled
  · next blank =>
      cases spelled
      exact blank ▸ .space (by decide)
  · split at spelled
    · next lineFeed =>
        cases spelled
        exact lineFeed ▸ .newline (by decide)
    · split at spelled
      · next letter =>
          cases spelled
          exact .letter letter
      · cases spelled

lemma exists_of_float {x : Binary64} {text : List Char} (spelled : float x = .ok text) :
    x.isFinite = true ∧ ∃ whole fraction, text = whole ++ '.' :: fraction ∧
      IsRun Char.isDigit whole ∧ IsRun Char.isDigit fraction ∧
      Binary64.ofDecimal whole fraction = x := by
  rw [float] at spelled
  split at spelled
  · next written =>
      cases spelled
      exact ⟨written.1, Binary64.exists_positional written.1 written.2⟩
  · cases spelled

/-- Two things one after the other are both there if the whole is. -/
lemma exists_of_bind {ε α β : Type} {first : Except ε α} {next : α → Except ε β} {b : β}
    (both : first >>= next = .ok b) : ∃ a, first = .ok a ∧ next a = .ok b := by
  cases first with
  | error e => cases both
  | ok a => exact ⟨a, rfl, both⟩

/-- A leaf is written as a lexeme. -/
lemma lexeme_of_leaf {leaf : Datum} (isLeaf : leaf.isLeaf = true) {text : List Char}
    (spelled : datum leaf = .ok text) : Lexeme text leaf := by
  cases leaf with
  | list items => cases isLeaf
  | dotted items tail => cases isLeaf
  | atom name => exact lexeme_of_atom spelled
  | integer value =>
      obtain ⟨run, same⟩ := digits_of_integer spelled
      rw [same]
      exact .integer run
  | text value =>
      cases spelled
      have written := Lexeme.text (textBody_escaped value.toList)
      rw [String.ofList_toList] at written
      exact written
  | boolean value =>
      cases spelled
      cases value
      · exact .tagged (.boolean .no)
      · exact .tagged (.boolean .yes)
  | character value => exact .tagged (.character (character_of_spelling spelled))
  | float value =>
      obtain ⟨-, whole, fraction, rfl, run, run', rfl⟩ := exists_of_float spelled
      exact .float run run'
  | ratio value =>
      obtain ⟨upper, first, rest⟩ := exists_of_bind spelled
      obtain ⟨lower, second, last⟩ := exists_of_bind rest
      cases last
      obtain ⟨run, same⟩ := digits_of_integer first
      obtain ⟨run', same'⟩ := digits_of_integer second
      exact .ratio run run' same same'
  | complex real imaginary =>
      obtain ⟨left, first, rest⟩ := exists_of_bind spelled
      obtain ⟨right, second, last⟩ := exists_of_bind rest
      cases last
      obtain ⟨-, whole, fraction, rfl, run, run', rfl⟩ := exists_of_float first
      obtain ⟨-, whole', fraction', rfl, run'', run''', rfl⟩ := exists_of_float second
      have written := Lexeme.complex (.decimal run run') (.decimal run'' run''')
      simpa using written

/-! ## Trees -/

mutual

/-- A datum is written as an expression. -/
lemma derives_of_datum : ∀ {tree : Datum} {text : List Char}, datum tree = .ok text →
    Derives true text tree
  | .list items, text, spelled => by
      obtain ⟨texts, inside, last⟩ := exists_of_bind spelled
      cases last
      rcases (sequences_of_data inside).1 with ⟨rfl, rfl⟩ | items
      · exact .list rfl .nil blank_nil
      · exact .list rfl (.separated items) blank_nil
  | .dotted items tail, text, spelled => by
      obtain ⟨texts, inside, rest⟩ := exists_of_bind spelled
      obtain ⟨lastText, behind, last⟩ := exists_of_bind rest
      cases last
      have pointed : PointedTail (Derives true) ('.' :: ([' '] ++ lastText)) tail :=
        .mk gap_blank (derives_of_datum behind)
      have dotted := Derives.dotted rfl (.mk (sequences_of_data inside).2 pointed) blank_nil
      simpa using dotted
  | .atom _, _, spelled => .lexeme (lexeme_of_leaf rfl spelled)
  | .integer _, _, spelled => .lexeme (lexeme_of_leaf rfl spelled)
  | .text _, _, spelled => .lexeme (lexeme_of_leaf rfl spelled)
  | .boolean _, _, spelled => .lexeme (lexeme_of_leaf rfl spelled)
  | .character _, _, spelled => .lexeme (lexeme_of_leaf rfl spelled)
  | .float _, _, spelled => .lexeme (lexeme_of_leaf rfl spelled)
  | .ratio _, _, spelled => .lexeme (lexeme_of_leaf rfl spelled)
  | .complex _ _, _, spelled => .lexeme (lexeme_of_leaf rfl spelled)

/-- Some data are written as a sequence of either kind, with the blanks between or behind. -/
lemma sequences_of_data : ∀ {trees : List Datum} {texts : List (List Char)},
    data trees = .ok texts →
      (trees = [] ∧ texts = [] ∨ Separated (Derives true) (spaced texts) trees) ∧
        Terminated (Derives true) (texts.flatMap (· ++ [' '])) trees
  | [], texts, spelled => by
      cases spelled
      exact ⟨.inl ⟨rfl, rfl⟩, .nil⟩
  | tree :: trees, texts, spelled => by
      obtain ⟨text, first, rest⟩ := exists_of_bind spelled
      obtain ⟨others, more, last⟩ := exists_of_bind rest
      cases last
      have derives := derives_of_datum first
      obtain ⟨between, behind⟩ := sequences_of_data more
      refine ⟨.inr ?_, ?_⟩
      · rcases between with ⟨rfl, rfl⟩ | items
        · exact .single derives
        · cases others with
          -- No sequence of one item or more is written as nothing.
          | nil =>
              obtain ⟨c, more, nonempty, -⟩ := items.starts fun _ _ => Derives.starts
              cases nonempty
          | cons second others => exact .cons derives gap_blank items
      · rw [List.flatMap_cons, List.append_assoc]
        exact .cons derives gap_blank behind

end

end Spelling

namespace Datum

lemma derives_of_toText {datum : Datum} {text : String} (spelled : datum.toText = .ok text) :
    Grammar.Derives true text.toList datum := by
  rw [toText] at spelled
  cases written : Spelling.datum datum with
  | error e => rw [written] at spelled; cases spelled
  | ok chars =>
      rw [written] at spelled
      cases spelled
      rw [String.toList_ofList]
      exact Spelling.derives_of_datum written

/-- What is written for a datum is read back as it, by every strict reading that allows its height
and by no other; a leaf is read back without any allowance. -/
theorem ofText_toText {datum : Datum} {text : String} (spelled : datum.toText = .ok text) :
    (∀ maxDepth : Int,
      (datum.height ≤ maxDepth.toNat →
        ofText text { strict := true, composites := true, maxDepth } = .ok datum) ∧
      (maxDepth.toNat < datum.height → ∃ offset,
        ofText text { strict := true, composites := true, maxDepth } =
          .error ⟨text.toList, offset, .tooDeep maxDepth⟩)) ∧
    (datum.isLeaf = true → ofText text = .ok datum) ∧
    datum.same datum = true := by
  have derives := derives_of_toText spelled
  refine ⟨fun maxDepth => ⟨fun low => ?_, fun high => ?_⟩, fun isLeaf => ?_, derives.same_self⟩
  · exact Entry.readDatum_of_le (.expression derives) low
  · exact Entry.readDatum_of_lt (.expression derives) high
  · have lexeme := derives.lexeme_of_leaf isLeaf
    exact Entry.readDatum_of_le (.expression (.lexeme lexeme)) (lexeme.height_eq ▸ Nat.zero_le _)

/-- The round trip of a list with a dotted pair in it, at its height and one level short. -/
theorem ofText_toText_nested :
    (list [.atom "a", .dotted [.integer 7] (.text "\"")]).toText = .ok "(a (7 . \"\\\"\"))" ∧
      ofText "(a (7 . \"\\\"\"))" { strict := true, composites := true, maxDepth := 2 } =
        .ok (list [.atom "a", .dotted [.integer 7] (.text "\"")]) ∧
      ∃ offset, ofText "(a (7 . \"\\\"\"))" { strict := true, composites := true, maxDepth := 1 } =
        .error ⟨"(a (7 . \"\\\"\"))".toList, offset, .tooDeep 1⟩ := by
  have spelled : (list [.atom "a", .dotted [.integer 7] (.text "\"")]).toText =
      .ok "(a (7 . \"\\\"\"))" := by rfl
  exact ⟨spelled, ((ofText_toText spelled).1 2).1 (by decide),
    ((ofText_toText spelled).1 1).2 (by decide)⟩

end Datum

end SExpr
