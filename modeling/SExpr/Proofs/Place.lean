import Mathlib.Tactic.Lemma
import SExpr.ReadError

/-!
# Lines and columns tell the offset

The place of an error is found by counting the line feeds in front of its offset and by looking back
for the last of them.  What is found has its meaning in the lines of the text, and that is where it
is easily wrong by one: on a line feed, which is the last character of its line, right behind one, at
the end of a text that ends in one, and past the end, where there is no line any more to be in.

* `Text.lines`, `Text.lineStart` — the lines of a text, and how much of the text is in front of one.
* `Text.induction_lines` — induction on the lines of a text.
* `Text.placeOf_of_notMem`, `Text.placeOf_behind` — on the first line the offset is the column, and
  behind a line feed places are those of the rest of the text, so many lines further down.
* `Text.exists_line` — which line an offset is in, by induction on the lines.
* `ReadError.place_identifies` — the line and the column of an error tell its offset, and the
  offsets of a text are in the order of their places.
-/

namespace SExpr

namespace Text

/-- The lines of a text without the line feeds that end them.  There is one more than line feeds, so
behind a line feed that ends the text there is an empty line. -/
def lines (text : List Char) : List (List Char) := text.splitOn '\n'

/-- How much of a text is in front of a line: the lines before it, with a line feed behind each. -/
def lineStart (text : List Char) (index : Nat) : Nat :=
  ((lines text).take index).foldr (fun line start => line.length + 1 + start) 0

variable {text line rest : List Char} {index offset : Nat}

/-! ## Lines -/

lemma lines_of_notMem (single : '\n' ∉ text) : lines text = [text] :=
  List.splitOn_eq_singleton single

lemma lines_append (single : '\n' ∉ line) :
    lines (line ++ '\n' :: rest) = line :: lines rest :=
  List.splitOn_append_cons_self_of_not_mem single rest

@[simp] lemma lineStart_zero (text : List Char) : lineStart text 0 = 0 := by simp [lineStart]

lemma lineStart_append_succ (single : '\n' ∉ line) (index : Nat) :
    lineStart (line ++ '\n' :: rest) (index + 1) = line.length + 1 + lineStart rest index := by
  simp [lineStart, lines_append single]

/-- Induction on the lines of a text: it is a single line, or a line and a line feed in front of
another text. -/
lemma induction_lines {P : List Char → Prop} (single : ∀ line, '\n' ∉ line → P line)
    (cons : ∀ line rest, '\n' ∉ line → P rest → P (line ++ '\n' :: rest)) (text : List Char) :
    P text := by
  induction length : text.length using Nat.strongRecOn generalizing text with
  | ind n ih =>
      by_cases feed : '\n' ∈ text
      · obtain ⟨line, rest, rfl, first⟩ := List.eq_append_cons_of_mem feed
        refine cons line rest first (ih rest.length ?_ rest rfl)
        rw [List.length_append, List.length_cons] at length
        omega
      · exact single text feed

/-! ## Places -/

lemma lastLineLength_le (text : List Char) : lastLineLength text ≤ text.length := by
  simpa [lastLineLength] using
    (List.takeWhile_prefix (l := text.reverse) fun c => decide (c ≠ '\n')).length_le

lemma lastLineLength_of_notMem (single : '\n' ∉ text) : lastLineLength text = text.length := by
  have whole : text.reverse.takeWhile (fun c => decide (c ≠ '\n')) = text.reverse := by
    have others : ∀ c ∈ text.reverse, decide (c ≠ '\n') = true := by
      intro c member
      have other : c ≠ '\n' := fun same => single (same ▸ List.mem_reverse.mp member)
      simpa using other
    have all : (text.reverse ++ []).takeWhile (fun c => decide (c ≠ '\n')) = _ :=
      List.takeWhile_append_of_pos others
    simpa using all
  rw [lastLineLength, whole, List.length_reverse]

/-- What comes in front of a line feed has no part in the last line. -/
lemma lastLineLength_append (front rest : List Char) :
    lastLineLength (front ++ '\n' :: rest) = lastLineLength rest := by
  have stopped : ('\n' :: front.reverse).takeWhile (fun c => decide (c ≠ '\n')) = [] := rfl
  have turned : (front ++ '\n' :: rest).reverse = rest.reverse ++ '\n' :: front.reverse := by simp
  rw [lastLineLength, turned, List.takeWhile_append, stopped, List.append_nil]
  split
  · next whole => rw [lastLineLength, whole]
  · rfl

/-- As long as no line feed is passed, the offset is the column. -/
lemma placeOf_of_notMem (single : '\n' ∉ text.take offset) :
    placeOf text offset = ⟨1, offset + 1⟩ := by
  simp [placeOf, lastLineLength_of_notMem single, List.count_eq_zero_of_not_mem single]

/-- Behind a line feed, places are those of the rest of the text, so many lines further down. -/
lemma placeOf_behind (front rest : List Char) (offset : Nat) :
    placeOf (front ++ '\n' :: rest) (front.length + 1 + offset) =
      ⟨front.count '\n' + 1 + (placeOf rest offset).line, (placeOf rest offset).column⟩ := by
  have before : (front ++ '\n' :: rest).take (front.length + 1 + offset) =
      front ++ '\n' :: rest.take offset := by
    rw [Nat.add_assoc, List.take_length_add_append, Nat.add_comm 1, List.take_succ_cons]
  have last := lastLineLength_le (rest.take offset)
  simp only [placeOf, before, lastLineLength_append, List.count_append, List.count_cons_self,
    List.length_append, List.length_cons, Place.mk.injEq]
  omega

/-- Every offset is on a line and at a column, from which it can be told.  In the text or at its end
it is in the line or at its end, and past the end it is on the last line. -/
lemma exists_line (text : List Char) (offset : Nat) : ∃ index line column,
    (lines text)[index]? = some line ∧ placeOf text offset = ⟨index + 1, column + 1⟩ ∧
      offset = lineStart text index + column ∧ (offset ≤ text.length → column ≤ line.length) ∧
      (text.length < offset → index + 1 = (lines text).length) := by
  induction text using induction_lines generalizing offset with
  | single line single =>
      have single' : '\n' ∉ line.take offset := fun member => single (List.mem_of_mem_take member)
      refine ⟨0, line, offset, ?_, placeOf_of_notMem single', ?_, id, fun _ => ?_⟩
      · simp [lines_of_notMem single]
      · simp
      · simp [lines_of_notMem single]
  | cons first rest single ih =>
      by_cases within : offset ≤ first.length
      · have single' : '\n' ∉ (first ++ '\n' :: rest).take offset := by
          rw [List.take_append_of_le_length within]
          exact fun member => single (List.mem_of_mem_take member)
        refine ⟨0, first, offset, ?_, placeOf_of_notMem single', ?_, fun _ => within, ?_⟩
        · simp [lines_append single]
        · simp
        · intro past
          rw [List.length_append, List.length_cons] at past
          omega
      · obtain ⟨more, rfl⟩ : ∃ more, offset = first.length + 1 + more :=
          ⟨offset - (first.length + 1), by omega⟩
        obtain ⟨index, line, column, isLine, place, rfl, inside, past⟩ := ih more
        refine ⟨index + 1, line, column, ?_, ?_, ?_, ?_, ?_⟩
        · simpa [lines_append single] using isLine
        · rw [placeOf_behind, List.count_eq_zero_of_not_mem single, place]
          simp [Nat.add_comm 1]
        · rw [lineStart_append_succ single, Nat.add_assoc (first.length + 1)]
        · intro whole
          rw [List.length_append, List.length_cons] at whole
          exact inside (by omega)
        · intro further
          rw [List.length_append, List.length_cons] at further
          simpa [lines_append single] using past (by omega)

/-- From the place of an offset the offset is told. -/
lemma placeOf_injective (text : List Char) : Function.Injective (placeOf text) := by
  intro offset other same
  obtain ⟨index, line, column, -, place, start, -, -⟩ := exists_line text offset
  obtain ⟨index', line', column', -, place', start', -, -⟩ := exists_line text other
  rw [place, place', Place.mk.injEq] at same
  obtain ⟨rfl, rfl⟩ : index = index' ∧ column = column' := by omega
  exact start.trans start'.symm

/-- Further offsets are not on earlier lines, because no line feed in front of them is lost. -/
lemma line_placeOf_le {later : Nat} (further : offset ≤ later) :
    (placeOf text offset).line ≤ (placeOf text later).line := by
  have before : text.take offset <+: text.take later := List.take_prefix_take_left further
  exact Nat.succ_le_succ (before.sublist.count_le '\n')

/-- And on the same line they are at later columns, because the line starts where it starts. -/
lemma placeOf_lt {later : Nat} (further : offset < later) :
    (placeOf text offset).line < (placeOf text later).line ∨
      (placeOf text offset).line = (placeOf text later).line ∧
        (placeOf text offset).column < (placeOf text later).column := by
  have notAbove : (placeOf text offset).line ≤ (placeOf text later).line :=
    line_placeOf_le (Nat.le_of_lt further)
  obtain ⟨index, line, column, -, place, start, -, -⟩ := exists_line text offset
  obtain ⟨index', line', column', -, place', start', -, -⟩ := exists_line text later
  rw [place, place'] at notAbove ⊢
  rcases Nat.lt_or_eq_of_le notAbove with above | level
  · exact .inl above
  · obtain rfl : index = index' := Nat.succ.inj level
    exact .inr ⟨rfl, by simp; omega⟩

end Text

namespace ReadError

/-- The line and the column of an error, whatever it is that was wrong, tell its offset.  Both are
counted from one, the line is one of the text, and the column is no further than one behind the end
of the line, where the line feed is or the text ends; the offset is what is in front of the line and
what is in front of the column in it.  So errors of one text are at different places if they are at
different offsets, and the one that is further on is on a later line, or on the same line at a later
column.  An error past the end of the text is on its last line. -/
theorem place_identifies :
    (∀ error : ReadError, error.offset ≤ error.source.length →
      ∃ line, (Text.lines error.source)[error.place.line - 1]? = some line ∧
        1 ≤ error.place.line ∧ error.place.line ≤ (Text.lines error.source).length ∧
        1 ≤ error.place.column ∧ error.place.column ≤ line.length + 1 ∧
        error.offset =
          Text.lineStart error.source (error.place.line - 1) + error.place.column - 1) ∧
    (∀ error other : ReadError, error.source = other.source → error.offset ≠ other.offset →
      error.place ≠ other.place) ∧
    (∀ error other : ReadError, error.source = other.source → error.offset < other.offset →
      error.place.line < other.place.line ∨
        error.place.line = other.place.line ∧ error.place.column < other.place.column) ∧
    ∀ error : ReadError, error.source.length < error.offset →
      error.place.line = (Text.lines error.source).length ∧ 1 ≤ error.place.column ∧
        error.offset = Text.lineStart error.source ((Text.lines error.source).length - 1) +
          (error.place.column - 1) := by
  refine ⟨?_, ?_, ?_, ?_⟩
  · intro error within
    obtain ⟨index, line, column, isLine, place, start, inside, -⟩ :=
      Text.exists_line error.source error.offset
    obtain ⟨few, -⟩ := List.getElem?_eq_some_iff.mp isLine
    rw [ReadError.place, place]
    exact ⟨line, isLine, Nat.le_add_left _ _, few, Nat.le_add_left _ _,
      Nat.succ_le_succ (inside within), start⟩
  · rintro ⟨source, offset, fault⟩ ⟨_, offset', fault'⟩ rfl different
    exact (Text.placeOf_injective source).ne different
  · rintro ⟨source, offset, fault⟩ ⟨_, offset', fault'⟩ rfl further
    exact Text.placeOf_lt further
  · intro error past
    obtain ⟨index, line, column, -, place, start, -, last⟩ :=
      Text.exists_line error.source error.offset
    rw [ReadError.place, place, ← last past]
    exact ⟨rfl, Nat.le_add_left _ _, start⟩

/-- A text of four lines, two of which are empty: an error on the line feed of the second line, and
one that is two places past the end, which is on the last line. -/
theorem place_identifies_feeds :
    let feed : ReadError := ⟨"ab\n\nc\n".toList, 3, .tooDeep 0⟩
    let past : ReadError := ⟨"ab\n\nc\n".toList, 8, .unexpected .empty⟩
    (feed.place = ⟨2, 1⟩ ∧ feed.offset ≤ feed.source.length ∧
      feed.offset = Text.lineStart feed.source (2 - 1) + 1 - 1) ∧
    (feed.offset < past.offset ∧ feed.place ≠ past.place ∧
      (feed.place.line < past.place.line ∨
        feed.place.line = past.place.line ∧ feed.place.column < past.place.column)) ∧
    past.source.length < past.offset ∧ past.place.line = (Text.lines past.source).length ∧
      1 ≤ past.place.column ∧
      past.offset = Text.lineStart past.source ((Text.lines past.source).length - 1) +
        (past.place.column - 1) := by
  intro feed past
  obtain ⟨inside, apart, order, outside⟩ := place_identifies
  have further : feed.offset < past.offset := by decide
  obtain ⟨line, -, -, -, -, -, start⟩ := inside feed (by decide)
  refine ⟨⟨rfl, by decide, start⟩, ?_, by decide, outside past (by decide)⟩
  exact ⟨further, apart feed past rfl (Nat.ne_of_lt further), order feed past rfl further⟩

end ReadError

end SExpr
