import SExpr.Proofs.Digits
import SExpr.Proofs.Grammar

/-!
# The classes of characters

How the sets of characters that the readers ask for lie to each other: which of them are disjoint,
and which contain which.  Letters and white space are tables of the character database, so that no
white space character is a letter is a fact about two tables; the rest is about ASCII.

* `Delimited rest` — no literal that ends before `rest` could go on into it.
* `Barren rest` — no expression starts where `rest` does.
-/

namespace SExpr

namespace Unicode

/-! ## Letters -/

lemma letterRanges_ordered : letterRanges.orderedFrom 0 = true := by decide +kernel

lemma spaceRanges_ordered : spaceRanges.orderedFrom 0 = true := by decide +kernel

/-- Every range of white space lies beside every range of letters. -/
lemma spaceRanges_apart : spaceRanges.all (fun space => letterRanges.all fun letter =>
    decide (letter.2 < space.1 ∨ space.2 < letter.1)) = true := by
  decide +kernel

lemma isLetter_eq_false_of_isSpace {c : Char} (space : isSpace c = true) :
    isLetter c = false := by
  cases letter : isLetter c with
  | false => rfl
  | true =>
      obtain ⟨range, member, low, high⟩ := (Ranges.contains_iff spaceRanges_ordered).mp space
      obtain ⟨range', member', low', high'⟩ := (Ranges.contains_iff letterRanges_ordered).mp letter
      have apart := List.all_eq_true.mp (List.all_eq_true.mp spaceRanges_apart _ member) _ member'
      simp only [decide_eq_true_eq] at apart
      omega

/-- The letters of ASCII come first in the table. -/
lemma letterRanges_eq : ∃ others, letterRanges = (0x41, 0x5a) :: (0x61, 0x7a) :: others := ⟨_, rfl⟩

/-- No character before `A` is a letter. -/
lemma isLetter_eq_false_of_lt {c : Char} (small : c.toNat < 0x41) : isLetter c = false := by
  obtain ⟨others, table⟩ := letterRanges_eq
  rw [isLetter, table, Ranges.contains, if_pos (by omega)]
  exact decide_eq_false (by omega)

lemma isUpper_iff {c : Char} : c.isUpper = true ↔ 0x41 ≤ c.toNat ∧ c.toNat ≤ 0x5a := by
  show decide (c.val ≥ 'A'.val ∧ c.val ≤ 'Z'.val) = true ↔ _
  rw [decide_eq_true_iff, ge_iff_le, UInt32.le_iff_toNat_le, UInt32.le_iff_toNat_le]
  exact Iff.rfl

lemma isLower_iff {c : Char} : c.isLower = true ↔ 0x61 ≤ c.toNat ∧ c.toNat ≤ 0x7a := by
  show (decide (c.val ≥ 'a'.val) && decide (c.val ≤ 'z'.val)) = true ↔ _
  rw [Bool.and_eq_true, decide_eq_true_iff, decide_eq_true_iff, ge_iff_le,
    UInt32.le_iff_toNat_le, UInt32.le_iff_toNat_le]
  exact Iff.rfl

/-- The letters of ASCII are letters. -/
lemma isLetter_of_ascii {c : Char} (letter : c.isUpper = true ∨ c.isLower = true) :
    isLetter c = true := by
  rw [isUpper_iff, isLower_iff] at letter
  obtain ⟨others, table⟩ := letterRanges_eq
  rw [isLetter, table, Ranges.contains]
  split
  · next early => exact decide_eq_true (by omega)
  · next late =>
      rw [Ranges.contains, if_pos (by omega)]
      exact decide_eq_true (by omega)

/-- Only the capitals of ASCII have another small form. -/
lemma toLower_eq_self {c : Char} (other : ¬ c.isUpper = true) : c.toLower = c :=
  dif_neg fun range => other (decide_eq_true range)

/-- A character whose small form is a small letter of ASCII is a letter. -/
lemma isLetter_of_toLower {c : Char} (lower : c.toLower.isLower = true) : isLetter c = true := by
  refine isLetter_of_ascii ?_
  by_cases upper : c.isUpper = true
  · exact .inl upper
  · rw [toLower_eq_self upper] at lower
    exact .inr lower

/-- White space is neither a digit nor any of the characters that ASCII prints. -/
lemma isSpace_eq_false_of_printed {c : Char} (low : 0x20 < c.toNat) (high : c.toNat < 0x85) :
    isSpace c = false := by
  have early : c.toNat ≤ 0x85 := by omega
  have late : ¬ c.toNat ≤ 0xd := by omega
  have later : ¬ c.toNat ≤ 0x20 := by omega
  simp only [isSpace, spaceRanges, Ranges.contains, early, late, later, if_true, if_false,
    decide_eq_false_iff_not]
  omega

end Unicode

/-! ## Digits -/

lemma isDigit_iff {c : Char} : c.isDigit = true ↔ 0x30 ≤ c.toNat ∧ c.toNat ≤ 0x39 := by
  simp only [Char.isDigit, Bool.and_eq_true, decide_eq_true_eq, ge_iff_le,
    UInt32.le_iff_toNat_le]
  exact Iff.rfl

lemma isLetter_eq_false_of_isDigit {c : Char} (digit : c.isDigit = true) :
    Unicode.isLetter c = false :=
  Unicode.isLetter_eq_false_of_lt (by have := isDigit_iff.mp digit; omega)

/-- A class of characters in which no symbol lies. -/
lemma symbols_contains_eq_false {accept : Char → Bool}
    (apart : symbols.all (fun s => !accept s) = true) {c : Char} (accepted : accept c = true) :
    symbols.contains c = false := by
  cases member : symbols.contains c with
  | false => rfl
  | true =>
      have refused := List.all_eq_true.mp apart c (by simpa using member)
      rw [accepted] at refused
      cases refused

/-- No symbol is a digit. -/
lemma isAtomStart_eq_false_of_isDigit {c : Char} (digit : c.isDigit = true) :
    isAtomStart c = false := by
  have noSymbol : symbols.contains c = false := symbols_contains_eq_false (by decide) digit
  rw [isAtomStart, isLetter_eq_false_of_isDigit digit, noSymbol]
  rfl

lemma isAtomChar_of_isDigit {c : Char} (digit : c.isDigit = true) : isAtomChar c = true := by
  rw [isAtomChar, digit, Bool.or_true]

lemma isAtomChar_of_isAtomStart {c : Char} (start : isAtomStart c = true) :
    isAtomChar c = true := by
  rw [isAtomChar, start, Bool.true_or]

lemma isAtomStart_of_isLetter {c : Char} (letter : Unicode.isLetter c = true) :
    isAtomStart c = true := by
  rw [isAtomStart, letter, Bool.true_or]

lemma isAtomChar_of_isLetter {c : Char} (letter : Unicode.isLetter c = true) :
    isAtomChar c = true :=
  isAtomChar_of_isAtomStart (isAtomStart_of_isLetter letter)

/-- The digits of every radix are atom characters: those that are not digits are letters. -/
lemma isAtomChar_of_radix_isDigit {radix : Numeral.Radix} {c : Char}
    (digit : radix.isDigit c = true) : isAtomChar c = true := by
  have table : ∀ c : Char, c.toNat < 128 → radix.isDigit c = true → isAtomChar c = true :=
    Numeral.forall_ascii (by cases radix <;> decide +kernel)
  exact table c (Numeral.Radix.toNat_lt_of_isDigit digit) digit

/-! ## What ends a literal -/

/-- Whether a character can go on a literal in front of it. -/
def goesOn (c : Char) : Bool := isAtomChar c || c == '.' || c == '\\'

/-- No literal in front of the text goes on into it. -/
def Delimited (rest : List Char) : Prop := Stops goesOn rest

/-- Whether an expression can start with a character. -/
def startsExpression (c : Char) : Bool := isAtomChar c || c == '"' || c == '\'' || c == '('

/-- No expression starts where the text does. -/
def Barren (rest : List Char) : Prop := Stops startsExpression rest

lemma startsExpression_of_isAtomChar {c : Char} (member : isAtomChar c = true) :
    startsExpression c = true := by
  rw [startsExpression, member, Bool.true_or, Bool.true_or, Bool.true_or]

namespace Delimited

variable {rest : List Char}

lemma stops_atomChar (delimited : Delimited rest) : Stops isAtomChar rest :=
  Stops.mono delimited fun c taken => by rw [goesOn, taken, Bool.true_or, Bool.true_or]

lemma stops_digit (delimited : Delimited rest) : Stops Char.isDigit rest :=
  delimited.stops_atomChar.mono fun _ => isAtomChar_of_isDigit

lemma not_point (delimited : Delimited rest) : ¬ ['.'] <+: rest := by
  rintro ⟨after, rfl⟩
  cases Stops.cons_iff.mp delimited

end Delimited

/-! ## White space -/

/-- White space neither goes on a literal nor starts an expression. -/
lemma space_apart {c : Char} (space : Unicode.isSpace c = true) :
    goesOn c = false ∧ startsExpression c = false := by
  have noSymbol : symbols.contains c = false := symbols_contains_eq_false (by decide) space
  have noDigit : c.isDigit = false := by
    cases digit : c.isDigit with
    | false => rfl
    | true =>
        have bounds := isDigit_iff.mp digit
        rw [Unicode.isSpace_eq_false_of_printed (by omega) (by omega)] at space
        cases space
  have atom : isAtomChar c = false := by
    rw [isAtomChar, isAtomStart, Unicode.isLetter_eq_false_of_isSpace space, noSymbol, noDigit]
    rfl
  have other : ∀ d : Char, Unicode.isSpace d = false → (c == d) = false := by
    intro d printed
    rw [beq_eq_false_iff_ne]
    rintro rfl
    rw [printed] at space
    cases space
  constructor
  · rw [goesOn, atom, other '.' rfl, other '\\' rfl]
    rfl
  · rw [startsExpression, atom, other '"' rfl, other '\'' rfl, other '(' rfl]
    rfl

lemma Grammar.Blank.delimited {blank rest : List Char} (space : Grammar.Blank blank)
    (delimited : Delimited rest) : Delimited (blank ++ rest) := by
  cases blank with
  | nil => exact delimited
  | cons c others => exact Stops.cons (space_apart (space c (by simp))).1

lemma Grammar.Gap.delimited {space : List Char} (gap : Grammar.Gap space) (rest : List Char) :
    Delimited (space ++ rest) := by
  obtain ⟨c, others, rfl⟩ := List.exists_cons_of_ne_nil gap.1
  exact Stops.cons (space_apart (gap.2 c (by simp))).1

/-- One blank is white space enough. -/
lemma Grammar.gap_blank : Grammar.Gap [' '] := .singleton rfl

/-- No white space at all is a possibility. -/
lemma Grammar.blank_nil : Grammar.Blank [] := by simp [Grammar.Blank]

/-! ## The characters of literals with a number sign -/

namespace Grammar

/-- What names a character is a run of letters. -/
lemma Character.exists_name {text : List Char} {c : Char} (literal : Character text c) :
    ∃ name, text = '#' :: '\\' :: name ∧ IsRun Unicode.isLetter name := by
  have letters : ∀ {name lower : List Char}, name.map Char.toLower = lower →
      lower.all Char.isLower = true → ∀ d ∈ name, Unicode.isLetter d = true := by
    intro name lower same small d member
    refine Unicode.isLetter_of_toLower (List.all_eq_true.mp small _ ?_)
    rw [← same]
    exact List.mem_map_of_mem member
  cases literal with
  | letter letter => exact ⟨[c], rfl, by simp, by simpa using letter⟩
  | @space name same =>
      refine ⟨name, rfl, ?_, letters same (by decide)⟩
      rintro rfl
      cases same
  | @newline name same =>
      refine ⟨name, rfl, ?_, letters same (by decide)⟩
      rintro rfl
      cases same

lemma goesOn_of_isAtomChar {c : Char} (member : isAtomChar c = true) : goesOn c = true := by
  rw [goesOn, member, Bool.true_or, Bool.true_or]

/-- A literal with a number sign consists of characters that go on a literal. -/
lemma Tagged.goesOn {text : List Char} {datum : Datum} (literal : Tagged text datum) :
    ∀ c ∈ text, goesOn c = true := by
  cases literal with
  | boolean value => cases value <;> exact List.all_eq_true.mp rfl
  | character named =>
      obtain ⟨name, rfl, -, letters⟩ := named.exists_name
      refine List.forall_mem_cons.mpr ⟨rfl, List.forall_mem_cons.mpr ⟨rfl, ?_⟩⟩
      exact fun c member => goesOn_of_isAtomChar (isAtomChar_of_isLetter (letters c member))
  | radixInteger integer =>
      obtain ⟨radix, -, digits⟩ := integer
      refine List.forall_mem_cons.mpr ⟨rfl, List.forall_mem_cons.mpr ⟨?_, ?_⟩⟩
      · cases radix <;> rfl
      · exact fun c member => goesOn_of_isAtomChar (isAtomChar_of_radix_isDigit (digits c member))

end Grammar

end SExpr
