import SExpr.Proofs.Counting
import SExpr.Proofs.Reader.Writes
import SExpr.Reader.Failures

/-!
# A reader stays between its place and the end of the text

Wherever a reader of expressions is tried in a text, it comes to an end, however deep expressions
may be nested.  What it finds takes up text, but for the two kinds of sequences, which find nothing
where nothing is and then are the empty list.  And all that it speaks of lies between the place
where it was tried and the end of the text: where a match ends, where an expression is nested too
deeply, and every single place where something was wanted and did not stand.

* `Failures.Within` — all failures lie in front of a bound; readers keep to what is ahead.
* `InPlace.Notes` — a record that is changed on the spot is changed by noting just these failures.
* `Session.attempt_progress` — all of this from any state of a session.
-/

namespace SExpr

open Reader

/-! ## Failures within a text -/

namespace Failures

/-- No failure lies behind the bound. -/
def Within (bound : Nat) (failures : Failures) : Prop :=
  ∀ miss ∈ failures.misses, miss.offset ≤ bound

variable {bound : Nat} {a b : Failures}

lemma within_nothing : Within bound Log.nothing := nofun

lemma Within.join (first : a.Within bound) (second : b.Within bound) :
    Within bound (Log.join a b) :=
  fun miss member => (List.mem_append.mp member).elim (first miss) (second miss)

lemma Within.shift (within : a.Within bound) (distance : Nat) :
    Within (distance + bound) (Log.shift distance a) := by
  intro miss member
  obtain ⟨inner, here, rfl⟩ := List.mem_map.mp member
  exact Nat.add_le_add_left (within inner here) distance

instance : Log.KeptNested Within where
  nothing _ := within_nothing
  join := Within.join
  shift distance within := within.shift distance
  missed _ _ _ := List.forall_mem_singleton.mpr (Nat.zero_le _)
  nested within := within_nothing.join (within.join within_nothing)
  refused _ := within_nothing.join within_nothing

end Failures

/-! ## Failures in a record -/

/-- A record in which some failures are noted, one after another. -/
def Furthest.noteAll (record : Furthest) (misses : List Miss) : Furthest :=
  misses.foldl (fun record miss => record.note miss.offset miss.what) record

lemma Furthest.noteAll_append (record : Furthest) (misses others : List Miss) :
    record.noteAll (misses ++ others) = (record.noteAll misses).noteAll others :=
  List.foldl_append

lemma Miss.shift_shift (m n : Nat) (miss : Miss) :
    (miss.shift n).shift m = miss.shift (m + n) := by
  rw [shift, shift, shift, Nat.add_assoc]

namespace InPlace

/-- At any offset and in any state the changes come to noting the failures, one after another. -/
def Notes (log : InPlace) (failures : Failures) : Prop :=
  ∀ offset state, log.change offset state =
    { state with furthest := state.furthest.noteAll (Log.shift offset failures).misses }

variable {log a b : InPlace} {failures e f : Failures}

lemma notes_nothing : (Log.nothing : InPlace).Notes Log.nothing := fun _ _ => rfl

lemma Notes.join (first : a.Notes e) (second : b.Notes f) :
    (Log.join a b : InPlace).Notes (Log.join e f) := by
  intro offset state
  have moved : (Log.shift offset (Log.join e f)).misses =
      (Log.shift offset e).misses ++ (Log.shift offset f).misses := List.map_append
  show b.change offset (a.change offset state) = _
  rw [first, second, moved, Furthest.noteAll_append]

lemma Notes.shift (notes : log.Notes failures) (distance : Nat) :
    (Log.shift distance log : InPlace).Notes (Log.shift distance failures) := by
  intro offset state
  have moved : (Log.shift offset (Log.shift distance failures)).misses =
      (Log.shift (offset + distance) failures).misses := by
    show (failures.misses.map _).map _ = failures.misses.map _
    rw [List.map_map]
    exact List.map_congr_left fun miss _ => miss.shift_shift offset distance
  rw [moved]
  exact notes (offset + distance) state

/-- One level down and back the failures are those of the level below. -/
lemma Notes.nested (notes : log.Notes failures) :
    (Log.join Log.opened (Log.join log Log.closed) : InPlace).Notes
      (Log.join Log.opened (Log.join failures Log.closed)) := by
  intro offset state
  have same : (Log.join Log.opened (Log.join failures Log.closed) : Failures) = failures :=
    congrArg Failures.mk (List.append_nil failures.misses)
  show (Log.closed : InPlace).change offset (log.change offset
    ((Log.opened : InPlace).change offset state)) = _
  rw [same, notes]
  exact Trace.ext rfl (Int.add_sub_cancel _ _)

instance : Log.Related Notes where
  nothing := notes_nothing
  join := Notes.join
  shift distance notes := notes.shift distance
  missed _ _ _ := rfl
  nested := Notes.nested
  refused _ _ := Trace.ext rfl (Int.add_sub_cancel _ _)

end InPlace

/-! ## The readers of a session -/

namespace Recognizer

variable {L : Type} [Log L] {composites : Bool} {room : Nat}

instance (recognizer : Recognizer) {P : Nat → L → Prop} [Log.KeptNested P] :
    Writes P (recognizer.reader composites room : Reader L Datum) := by
  cases recognizer <;> unfold Recognizer.reader <;> infer_instance

/-- Apart from the two sequences, every reader of expressions takes up text. -/
lemma advances {recognizer : Recognizer} (notList : recognizer ≠ .list)
    (notBody : recognizer ≠ .formBody) :
    Advances (recognizer.reader composites room : Reader L Datum) := by
  cases recognizer with
  | expression =>
      exact inferInstanceAs
        (Advances (dispatch Literal.inOrder composites (Reader.item composites room)))
  | list => exact absurd rfl notList
  | formBody => exact absurd rfl notBody
  | _ => unfold Recognizer.reader; infer_instance

/-- The two sequences find something in no text, and then it is the empty list. -/
lemma reads_nil_iff {recognizer : Recognizer} {front rest : List Char} {datum : Datum}
    (found : Reads (recognizer.reader composites room : Reader L Datum) front rest datum) :
    front = [] ↔ (recognizer = .list ∨ recognizer = .formBody) ∧ datum = .list [] := by
  by_cases isList : recognizer = .list
  · subst isList
    exact (reads_list_nil_iff found).trans (and_iff_right (.inl rfl)).symm
  by_cases isBody : recognizer = .formBody
  · subst isBody
    exact (reads_formBody_nil_iff found).trans (and_iff_right (.inr rfl)).symm
  · have takes : Advances (recognizer.reader composites room : Reader L Datum) :=
      advances isList isBody
    exact iff_of_false (takes.nonempty found) fun sequence => sequence.1.elim isList isBody

end Recognizer

namespace Session

variable {session : Session} {recognizer : Recognizer} {offset stop : Nat} {datum : Datum}

/-- A reader notes its failures in the record of the session and changes nothing else. -/
lemma attempt_snd (session : Session) (recognizer : Recognizer) (offset : Nat) :
    (session.attempt (session.reader recognizer) offset).2 =
      { session with
        furthest := session.furthest.noteAll (session.failures recognizer offset) } := by
  have notes : Follows False InPlace.Notes (session.reader recognizer)
      (session.reader recognizer) := recognizer.follows _ _
  rw [attempt_eq_attemptAtOnce (p := session.reader recognizer) (recognizer.follows _ _)]
  rcases notes.agree (session.source.drop offset) with ⟨⟨⟩, -⟩ | ⟨-, noted⟩
  simp only [attemptAtOnce, noted offset]
  rfl

/-- All of these lie between the offset and the end of the text. -/
lemma failures_within (inside : offset ≤ session.source.length) {miss : Miss}
    (member : miss ∈ session.failures recognizer offset) :
    offset ≤ miss.offset ∧ miss.offset ≤ session.source.length := by
  have within : Failures.Within _ _ :=
    Writes.log (p := session.reader recognizer) (session.source.drop offset)
  obtain ⟨inner, here, rfl⟩ := List.mem_map.mp member
  have bound := within inner here
  rw [List.length_drop] at bound
  exact ⟨Nat.le_add_right _ _, by show offset + inner.offset ≤ _; omega⟩

/-- A match ends behind its offset, but for sequences without an item, and not behind the text. -/
lemma found_within (inside : offset ≤ session.source.length)
    (found : (session.attempt (session.reader recognizer) offset).1 = .found datum stop) :
    offset ≤ stop ∧ stop ≤ session.source.length ∧
      (stop = offset ↔ (recognizer = .list ∨ recognizer = .formBody) ∧ datum = .list []) := by
  obtain ⟨front, rest, split, taken, rfl⟩ := attempt_eq_found_iff.mp found
  have lengths := congrArg List.length split
  rw [List.length_drop, List.length_append] at lengths
  refine ⟨Nat.le_add_right _ _, by omega, ?_⟩
  rw [← Recognizer.reads_nil_iff taken, ← List.length_eq_zero_iff]
  omega

/-- Wherever a reader of expressions is tried in a text, and from whatever state of a session, it
comes to an end, however deep expressions may be nested; as many turns and levels are enough as
there are characters behind the offset, and one more.  What it finds ends behind the offset and not
behind the text, except that a sequence ends at the offset just if it is found without an item.  An
expression that is nested too deeply is one between the offset and the end of the text.  So is every
single failure: the record afterwards is the one before with certain failures noted one after
another, and all of these lie there. -/
theorem attempt_progress (session : Session) (recognizer : Recognizer) (offset : Nat)
    (inside : offset ≤ session.source.length) :
    (∀ times, session.source.length - offset < times →
      session.attemptCounting (recognizer.counting session.options.composites
          session.options.maxDepth times) offset =
        some (session.attempt (session.reader recognizer) offset)) ∧
    (∀ datum stop, (session.attempt (session.reader recognizer) offset).1 = .found datum stop →
      offset ≤ stop ∧ stop ≤ session.source.length ∧
        (stop = offset ↔ (recognizer = .list ∨ recognizer = .formBody) ∧ datum = .list [])) ∧
    (∀ place, (session.attempt (session.reader recognizer) offset).1 = .tooDeep place →
      offset ≤ place ∧ place ≤ session.source.length) ∧
    (session.attempt (session.reader recognizer) offset).2 =
      { session with
        furthest := session.furthest.noteAll (session.failures recognizer offset) } ∧
    ∀ miss ∈ session.failures recognizer offset,
      offset ≤ miss.offset ∧ miss.offset ≤ session.source.length :=
  ⟨fun _ => attemptCounting_recognizer recognizer,
    fun _ _ => found_within inside, fun _ => tooDeep_of_attempt inside,
    attempt_snd session recognizer offset, fun _ => failures_within inside⟩

/-- With room for a million levels four times are enough for a text of three characters.  Its last
one is a backslash, so an escape code is wanted at the end of the text and nothing is further on.  In
front of a closing parenthesis a form ends where it starts, being empty; and where one level is
allowed, the place that is refused lies in the text. -/
theorem attempt_progress_backslash :
    ((start "(\"\\".toList { composites := true, maxDepth := 1000000 }).attemptCounting
        (Recognizer.expression.counting true 1000000 4) 0).map Prod.fst = some .missing ∧
    (⟨3, "escape code"⟩ : Miss) ∈ (start "(\"\\".toList
      { composites := true, maxDepth := 1000000 }).failures .expression 0 ∧
    (∀ miss ∈ (start "(\"\\".toList { composites := true, maxDepth := 1000000 }).failures
      .expression 0, miss.offset ≤ 3) ∧
    (∃ datum stop, ((start ")".toList {}).attempt ((start ")".toList {}).reader .formBody) 0).1 =
        .found datum stop ∧ (stop = 0 ↔ datum = .list [])) ∧
    ∃ place, ((start "((a".toList { composites := true, maxDepth := 1 }).attempt
        ((start "((a".toList { composites := true, maxDepth := 1 }).reader .expression) 0).1 =
        .tooDeep place ∧ place ≤ 3 := by
  obtain ⟨ends, -, -, -, within⟩ := attempt_progress
    (start "(\"\\".toList { composites := true, maxDepth := 1000000 }) .expression 0 (by decide)
  obtain ⟨-, found, -⟩ := attempt_progress (start ")".toList {}) .formBody 0 (by decide)
  obtain ⟨-, -, refused, -⟩ := attempt_progress
    (start "((a".toList { composites := true, maxDepth := 1 }) .expression 0 (by decide)
  refine ⟨(congrArg (Option.map Prod.fst) (ends 4 (by decide))).trans rfl, by decide,
    fun miss member => (within miss member).2, ⟨.list [], 0, rfl, ?_⟩, ⟨2, rfl, (refused 2 rfl).2⟩⟩
  exact (found (.list []) 0 rfl).2.2.trans (and_iff_right (.inr rfl))

end Session

end SExpr
