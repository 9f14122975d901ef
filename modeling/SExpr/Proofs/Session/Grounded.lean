import SExpr.Proofs.Acceptance
import SExpr.Proofs.Reader.Grounded
import SExpr.Proofs.Reader.Speaks
import SExpr.Proofs.Session.Attempt
import SExpr.Proofs.Session.Noting

/-!
# Every error has a ground

Whoever is told that a text cannot be read is told where and what would do.  In a session that was
started with an empty record, and whatever was done in it since, a reader of expressions that finds
nothing leaves a failure no further left than its own place, with something that was wanted there.
So the error of a whole text points into the text or at its end, wants something, and shows what
stands there.  That the text goes on behind a match is said too, but only if no alternative got
further than the match.

* `Session.filled_after` — what any steps leave in the record names something; by induction.
* `Session.exists_failure_of_missing` — an attempt that finds nothing leaves a failure.
* `Entry.exists_record_of_read` — the record that the error of a reading speaks of.
* `Entry.read_grounded` — sessions and whole texts.
-/

namespace SExpr

open Reader

/-! ## Records of sessions -/

/-- Where a failure from behind an offset is joined to a record, the record has one from behind the
offset. -/
lemma Furthest.exists_of_join_shift {a b : Furthest} {offset : Nat} (failed : b ≠ none)
    (filled : (a.join (b.shift offset)).Filled) : ∃ failure ∈ a.join (b.shift offset),
      offset ≤ failure.offset ∧ failure.expected.descriptions ≠ [] := by
  have further := offset_join a (b.shift offset)
  obtain ⟨inner, rfl⟩ := Option.ne_none_iff_exists'.mp failed
  obtain ⟨failure, joined⟩ :=
    Option.ne_none_iff_exists'.mp (join_ne_none_right a (shift_ne_none failed offset))
  rw [joined] at filled further ⊢
  refine ⟨failure, rfl, ?_, filled (Option.some_ne_none failure)⟩
  calc offset ≤ offset + inner.offset := Nat.le_add_right offset inner.offset
    _ ≤ max a.offset (offset + inner.offset) := Nat.le_max_right _ _
    _ = failure.offset := further.symm

/-- Where a trace has a failure, something was wanted. -/
def Trace.Filled (trace : Trace) : Prop := trace.furthest.Filled

/-- Whatever is noted, something is; the second log plays no part. -/
instance {L : Type} [Log L] : Log.Related (fun (trace : Trace) (_ : L) => trace.Filled) where
  nothing := Furthest.filled_none
  join first second := first.join second
  shift distance filled := Furthest.Filled.shift filled distance
  missed what := Furthest.filled_missedAt 0 what
  nested filled := Furthest.filled_none.join (Furthest.Filled.join filled Furthest.filled_none)
  refused := Furthest.filled_none.join Furthest.filled_none

namespace Session

variable {session : Session} {recognizer : Recognizer} {offset : Nat}

lemma filled_attempt {α : Type} {p q : Reader Trace α} (filled : session.furthest.Filled)
    (follows : Follows False (fun trace _ => trace.Filled) p q) (offset : Nat) :
    (session.attempt p offset).2.furthest.Filled := by
  rcases follows.agree (session.source.drop offset) with ⟨⟨⟩, -⟩ | ⟨-, noted⟩
  exact filled.join (Furthest.Filled.shift noted offset)

lemma filled_perform (filled : session.furthest.Filled) (step : Step) :
    (session.perform step).2.furthest.Filled := by
  cases step with
  | recognize recognizer offset =>
      exact filled_attempt (q := session.reader recognizer) filled (recognizer.follows _ _) offset
  | scan primitive offset =>
      exact filled_attempt (q := session.scanner primitive offset) filled
        (session.follows_scanner primitive offset) offset
  | fail offset what => exact filled.join (Furthest.filled_missedAt offset what)
  | describe => exact filled

lemma filled_after (filled : session.furthest.Filled) (steps : List Step) :
    (session.after steps).furthest.Filled := by
  induction steps generalizing session with
  | nil => exact filled
  | cons step steps ih =>
      rw [after_cons]
      exact ih (filled_perform filled step)

/-! ## Attempts that find nothing -/

lemma recognized_eq_none_iff {verdict : Verdict Datum} :
    session.recognized verdict = .recognized none ↔ verdict = .missing := by
  cases verdict <;> simp [recognized]

/-- What the readers that are not for single literals want is said where it does not stand. -/
lemma speaks_reader (member : recognizer ∈ [.expression, .item, .dottedPair, .quoted, .dottedTail,
    .parenthesized]) : Speaks (session.reader recognizer) := by
  simp only [List.mem_cons, List.not_mem_nil, or_false] at member
  rcases member with rfl | rfl | rfl | rfl | rfl | rfl
  · exact inferInstanceAs (Speaks (Entry.expression.reader _ _))
  all_goals
    unfold reader Recognizer.reader
    infer_instance

lemma exists_failure_of_missing (speaks : Speaks (session.reader recognizer))
    (filled : session.furthest.Filled)
    (missing : (session.attempt (session.reader recognizer) offset).1 = .missing) :
    ∃ failure ∈ (session.attempt (session.reader recognizer) offset).2.furthest,
      offset ≤ failure.offset ∧ failure.expected.descriptions ≠ [] := by
  have balanced : Follows False Trace.Balanced (session.reader recognizer)
      (session.reader recognizer) := recognizer.follows _ _
  have named : (session.attempt (session.reader recognizer) offset).2.furthest.Filled :=
    filled_perform filled (.recognize recognizer offset)
  rcases balanced.agree (session.source.drop offset) with ⟨⟨⟩, -⟩ | ⟨verdicts, traces⟩
  have absent : Misses (session.reader recognizer : Reader Furthest Datum)
      (session.source.drop offset) := verdicts.symm.trans (attempt_eq_missing_iff.mp missing)
  have record : (session.attempt (session.reader recognizer) offset).2.furthest =
      session.furthest.join (Furthest.shift offset
        (session.reader recognizer (session.source.drop offset)).log) := by
    rw [attempt, traces]
  rw [record] at named ⊢
  exact Furthest.exists_of_join_shift (speaks.log_ne_none absent) named

end Session

/-! ## Whole texts -/

namespace Entry

variable {entry : Entry} {options : Options} {source : String} {error : ReadError}

/-- What a reading that is not strict finds is what the reader finds. -/
lemma verdict_of_read {datum : Datum} {stop : Nat}
    (found : entry.read { options with strict := false } source = .ok (datum, stop)) :
    (entry.reader options.composites (options.room 0) source.toList :
      Outcome Furthest Datum).verdict = .found datum stop := by
  obtain ⟨front, rest, split, rfl, -, taken⟩ := read_eq_ok_iff.mp found
  rw [split]
  exact taken

/-- The error of a reading that was not refused speaks of a record that names something.  If the
text goes on behind a match, the record is no further left than the end of the match, and says so
just if it is there. -/
lemma exists_record_of_read (failed : entry.read options source = .error error)
    (unexpected : ∀ limit, error.fault ≠ .tooDeep limit) : ∃ record : Furthest,
      error = .ofFurthest source.toList record ∧ record ≠ none ∧ record.Filled ∧
      record.offset ≤ source.toList.length ∧
      ∀ datum stop, entry.read { options with strict := false } source = .ok (datum, stop) →
        stop ≤ record.offset ∧
          (endOfInput ∈ record.expected.descriptions ↔ record.offset = stop) := by
  have grounded := entry.grounded_log options source.toList
  rw [read, readChars, conclude] at failed
  cases verdict : (entry.reader options.composites (options.room 0) source.toList :
      Outcome Furthest Datum).verdict with
  | found datum length =>
      simp only [verdict] at failed
      split at failed
      · obtain rfl := Except.error.inj failed
        have inside := Bounded.length_le verdict
        refine ⟨_, rfl, Furthest.join_ne_none_right _ (Option.some_ne_none _),
          grounded.filled.join (Furthest.filled_missedAt length endOfInput), ?_, ?_⟩
        · rw [Furthest.offset_join]
          exact Nat.max_le.mpr ⟨grounded.offset_le, inside⟩
        · intro datum' stop found
          obtain ⟨-, rfl⟩ := Verdict.found.inj (verdict.symm.trans (verdict_of_read found))
          refine ⟨?_, Furthest.mem_join_missedAt grounded.endOfInput_notMem length⟩
          rw [Furthest.offset_join]
          exact Nat.le_max_right _ length
      · cases failed
  | missing =>
      simp only [verdict] at failed
      obtain rfl := Except.error.inj failed
      refine ⟨_, rfl, Speaks.log_ne_none verdict, grounded.filled, grounded.offset_le, ?_⟩
      intro datum stop found
      cases verdict.symm.trans (verdict_of_read found)
  | tooDeep offset =>
      simp only [verdict] at failed
      obtain rfl := Except.error.inj failed
      exact absurd rfl (unexpected options.maxDepth)

/-- In a session that was started with an empty record, whatever was done in it since, a reader of
expressions, inside others or not, or of one of the composite ones leaves a failure if it finds
nothing: one at its own place or further on, with something that was wanted there.

So the error of a whole text, unless an expression is nested too deeply, points into the text or at
its end, wants something, and names what it wants in increasing order; it shows what stands there,
which is nothing only at the end of the text.  And if a strict reading finds something that does not
go on to the end of the text, the error points no further left than the end of what was found, and
wants the end of the text just if it points there. -/
theorem read_grounded :
    (∀ source options steps recognizer offset later,
      recognizer ∈ [.expression, .item, .dottedPair, .quoted, .dottedTail, .parenthesized] →
      ((Session.start source options).after steps).perform (.recognize recognizer offset) =
        (.recognized none, later) →
      ∃ failure ∈ later.furthest, offset ≤ failure.offset ∧
        failure.expected.descriptions ≠ []) ∧
    ∀ (entry : Entry) (options : Options) (source : String) (error : ReadError),
      entry.read options source = .error error → (∀ limit, error.fault ≠ .tooDeep limit) →
      error.offset ≤ source.toList.length ∧ error.expected ≠ [] ∧
      error.expected.Pairwise (· < ·) ∧ error.found = source.toList[error.offset]? ∧
      (error.found = none ↔ error.offset = source.toList.length) ∧
      ∀ datum stop, entry.read { options with strict := false } source = .ok (datum, stop) →
        stop ≤ error.offset ∧ ("end of input" ∈ error.expected ↔ error.offset = stop) := by
  constructor
  · intro source options steps recognizer offset later member nothing
    have filled : ((Session.start source options).after steps).furthest.Filled :=
      Session.filled_after Furthest.filled_none steps
    obtain ⟨answer, rfl⟩ := Prod.mk.inj nothing
    refine Session.exists_failure_of_missing (Session.speaks_reader member) filled ?_
    exact Session.recognized_eq_none_iff.mp answer
  · intro entry options source error failed unexpected
    obtain ⟨record, rfl, some, filled, inside, behind⟩ := exists_record_of_read failed unexpected
    refine ⟨inside, filled some, record.expected.increasing, rfl, ?_, behind⟩
    rw [ReadError.found, List.getElem?_eq_none_iff]
    exact ⟨fun outside => Nat.le_antisymm inside outside, Nat.le_of_eq ∘ Eq.symm⟩

/-- In front of `#t` the reader of atoms finds nothing and says nothing, but the reader of quoted
expressions behind it says what it wanted.  The ratio in `1/0` is no ratio, and that is said further
on than where the integer ends; behind an atom the end of the text is wanted where the atom ends. -/
theorem read_grounded_strict :
    ((Session.start "a#t".toList {}).perform (.recognize .atom 1) =
        (.recognized none, Session.start "a#t".toList {}) ∧
      ∃ failure ∈ (((Session.start "a#t".toList {}).after [.recognize .atom 1]).perform
        (.recognize .quoted 1)).2.furthest, 1 ≤ failure.offset ∧
          failure.expected.descriptions ≠ []) ∧
    (∃ error, Entry.expression.read { strict := true } "1/0" = .error error ∧
      1 < error.offset ∧ "end of input" ∉ error.expected) ∧
    ∃ error, Entry.expression.read { strict := true } "a b" = .error error ∧
      error.offset = 1 ∧ "end of input" ∈ error.expected := by
  obtain ⟨session, text⟩ := read_grounded
  obtain ⟨-, -, -, -, -, ratio⟩ := text .expression { strict := true } "1/0"
    ⟨"1/0".toList, 2, .unexpected (.singleton "non-zero denominator")⟩ rfl nofun
  obtain ⟨-, -, -, -, -, atom⟩ := text .expression { strict := true } "a b"
    ⟨"a b".toList, 1, .unexpected (.singleton endOfInput)⟩ rfl nofun
  refine ⟨⟨rfl, ?_⟩, ⟨_, rfl, Nat.lt_succ_self 1, ?_⟩, ⟨_, rfl, rfl, ?_⟩⟩
  · exact session "a#t".toList {} [.recognize .atom 1] .quoted 1 _ (by simp) rfl
  · intro wanted
    exact absurd ((ratio (.integer 1) 1 rfl).2.mp wanted) (by decide)
  · exact (atom (.atom "a") 1 rfl).2.mpr rfl

end Entry

end SExpr
