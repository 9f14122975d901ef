import SExpr.Proofs.Acceptance
import SExpr.Proofs.Parallel.Readers

/-!
# The limit of nesting only cuts off

A limit on the levels of nesting can make a reading refuse a text, but it never makes it come to
something else.  A reading that was not refused met no place without room, so with more room it goes
the same way, up to the failures that it notes.

How much room an expression needs is its height.  A reader may look further down than what it
finally finds, but only to find no item at all in front of a parenthesis or a point, and it needs no
more room for that than for an item.

* `answers_of_reads_expression` — an expression that was found with some room is found with any room
  that is no less than its height, and refused with less; by induction on the levels.
* `Entry.read_limit` — both for readings of whole texts.
-/

namespace SExpr

namespace Reader

variable {L : Type} [Log L] {composites : Bool} {room room' : Nat} {text front rest : List Char}
  {datum : Datum}

/-! ## The room that an expression needs -/

/-- If what was found inside is answered with any room, so is the expression that was found. -/
lemma answers_of_reads_level {inner : Reader L Datum} (serves : Serves composites room' inner)
    (inside : ∀ {text datum}, Reads inner text rest datum → ∀ room,
      Answers (item composites room : Reader L Datum) text rest datum (datum.height < room))
    (found : Reads (dispatch Literal.inOrder composites inner) front rest datum) (room : Nat) :
    Answers (dispatch Literal.inOrder composites (item composites room) : Reader L Datum) front rest
      datum (datum.height ≤ room) := by
  rw [dispatch, reads_orElse] at found
  rcases found with literal | ⟨noLiteral, found⟩
  · have low : datum.height ≤ room := (lexeme_of_reads literal).height_eq ▸ Nat.zero_le room
    exact (literal.answers low).orElse
  obtain ⟨rfl, built⟩ := reads_composite found
  refine noLiteral.orElse_answers ?_
  rcases built with built | built
  · obtain ⟨text, quotee, rfl, behind, rfl⟩ := exists_of_reads_quoted built
    have answer := answers_quoted (inside behind room)
    exact answers_composite_of_quoted (answer.congr Datum.height_quote_le_iff.symm)
  -- A form is closed, so it is found again whatever stands behind it.
  · obtain ⟨body, text, blank, rfl, form, space, rfl⟩ := exists_of_reads_parenthesized serves built
    have answer : Answers (parenthesized (item true room) : Reader L Datum)
        ('(' :: (text ++ (blank ++ [')']))) rest body.toDatum (body.toDatum.height ≤ room) :=
      answers_parenthesized (serves_item true room) space form.derived
    exact answers_composite_of_parenthesized answer

/-- An expression that was found inside another with some room is found with any room that is more
than its height, and refused with less; by induction on the room it was found with. -/
lemma answers_of_reads_item
    (found : Reads (item composites room' : Reader L Datum) text rest datum) (room : Nat) :
    Answers (item composites room : Reader L Datum) text rest datum (datum.height < room) := by
  induction room' generalizing text datum room with
  | zero => cases found
  | succ levels ih =>
      have answer := answers_of_reads_level (serves_item composites levels) ih found
      cases room with
      | zero => exact ⟨fun low => absurd low (Nat.not_lt_zero _), fun _ => ⟨0, rfl⟩⟩
      | succ room => exact (answer room).congr Nat.lt_succ_iff.symm

/-- An expression that was found with some room is found with any room that is no less than its
height, and refused with less, whatever stands behind it. -/
lemma answers_of_reads_expression
    (found : Reads (expression composites room' : Reader L Datum) front rest datum) (room : Nat) :
    Answers (expression composites room : Reader L Datum) front rest datum
      (datum.height ≤ room) :=
  answers_of_reads_level (serves_item composites room') answers_of_reads_item found room

end Reader

namespace Entry

open Reader

/-- A higher limit changes nothing where a lower one did not make the reading refuse the text. -/
lemma read_of_limit_le {entry : Entry} {strict composites : Bool} {source : String}
    {limit limit' : Int} (more : limit ≤ limit')
    (accepted : ¬ ∃ offset, entry.read ⟨strict, composites, limit⟩ source =
      .error ⟨source.toList, offset, .tooDeep limit⟩) :
    entry.read ⟨strict, composites, limit'⟩ source =
      entry.read ⟨strict, composites, limit⟩ source := by
  have accepted' : ¬ Refuses (entry.reader composites limit.toNat : Reader Furthest Datum)
      source.toList := by
    rw [← Options.room_zero ⟨strict, composites, limit⟩]
    exact fun refused => accepted (read_eq_tooDeep_iff.mpr refused)
  have follows : Follows True Eq (entry.reader composites limit.toNat : Reader Furthest Datum)
      (entry.reader composites limit'.toNat) :=
    entry.follows composites (.inr ⟨trivial, Int.toNat_le_toNat more⟩)
  rcases follows.agree source.toList with ⟨-, refused⟩ | ⟨verdicts, logs⟩
  · exact absurd refused accepted'
  rw [read, read, readChars, readChars, conclude, conclude, Options.room_zero, Options.room_zero,
    ← verdicts, ← logs]
  cases verdict : (entry.reader composites limit.toNat source.toList :
      Outcome Furthest Datum).verdict with
  | found datum length => rfl
  | missing => rfl
  | tooDeep offset => exact absurd ⟨offset, verdict⟩ accepted'

/-- The limit of nesting only cuts off.  A reading that is not refused comes to the same with any
higher limit: the same datum and end, or the same failures at the same place.  And an expression
that was found is found with every limit that is no less than its height, and refused by name of
the limit with every other. -/
theorem read_limit (strict composites : Bool) (source : String) :
    (∀ (entry : Entry) (limit limit' : Int), limit ≤ limit' →
      (¬ ∃ offset, entry.read ⟨strict, composites, limit⟩ source =
        .error ⟨source.toList, offset, .tooDeep limit⟩) →
      entry.read ⟨strict, composites, limit'⟩ source =
        entry.read ⟨strict, composites, limit⟩ source) ∧
    ∀ (limit : Int) (datum : Datum) (length : Nat),
      Entry.expression.read ⟨strict, composites, limit⟩ source = .ok (datum, length) →
      ∀ limit' : Int,
        (datum.height ≤ limit'.toNat →
          Entry.expression.read ⟨strict, composites, limit'⟩ source = .ok (datum, length)) ∧
        (limit'.toNat < datum.height → ∃ offset,
          Entry.expression.read ⟨strict, composites, limit'⟩ source =
            .error ⟨source.toList, offset, .tooDeep limit'⟩) := by
  refine ⟨fun entry limit limit' => read_of_limit_le, ?_⟩
  intro limit datum length found limit'
  obtain ⟨front, rest, split, fits, whole, reads⟩ := read_eq_ok_iff.mp found
  have answers := answers_of_reads_expression reads limit'.toNat
  constructor
  · intro low
    refine read_eq_ok_iff.mpr ⟨front, rest, split, fits, whole, ?_⟩
    rw [Options.room_zero]
    exact answers.1 low
  · intro high
    refine read_eq_tooDeep_iff.mpr ?_
    rw [Options.room_zero, split]
    exact answers.2 (Nat.not_le_of_lt high)

/-- The text `(a (b)` misses its end with limit two and with limit five; `((a)) b`, two levels of
it, needs limit two. -/
theorem read_limit_levels :
    Entry.expression.read ⟨true, true, 5⟩ "(a (b)" =
        Entry.expression.read ⟨true, true, 2⟩ "(a (b)" ∧
      Entry.expression.read ⟨false, true, 2⟩ "((a)) b" = .ok (.list [.list [.atom "a"]], 5) ∧
      ∃ offset, Entry.expression.read ⟨false, true, 1⟩ "((a)) b" =
        .error ⟨"((a)) b".toList, offset, .tooDeep 1⟩ := by
  have found : Entry.expression.read ⟨false, true, 7⟩ "((a)) b" =
      .ok (.list [.list [.atom "a"]], 5) := by rfl
  have missed : ¬ ∃ offset, Entry.expression.read ⟨true, true, 2⟩ "(a (b)" =
      .error ⟨"(a (b)".toList, offset, .tooDeep 2⟩ := by
    rintro ⟨offset, refused⟩
    cases refused
  have levels := (read_limit false true "((a)) b").2 7 _ _ found
  exact ⟨(read_limit true true "(a (b)").1 .expression 2 5 (by decide) missed,
    (levels 2).1 (by decide), (levels 1).2 (by decide)⟩

end Entry

end SExpr
