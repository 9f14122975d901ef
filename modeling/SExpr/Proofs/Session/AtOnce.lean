import SExpr.Proofs.Parallel.Readers
import SExpr.Proofs.Reader.Trace
import SExpr.Session

/-!
# Failures noted at once

A session could note each failure in its record as soon as it is met, and count a level up or down
as soon as a nested expression is entered or left.  Instead a reader leaves a trace with offsets
that count from its own place, and the session joins that to its record once the reader is done.
The two come to the same, because the readers are the same but for the log they write: `InPlace` is
the log that changes a record on the spot, and what such a log does to any record is to join the
trace to it.

* `Recognizer.follows`, `Session.follows_scanner` — the readers that a session uses follow
  themselves, whatever the two kinds of logs are.
* `InPlace.Adds` — changing a record on the spot adds the trace to it.
* `Session.perform_eq_performAtOnce` — no answer and no record tells which of the two was done.
-/

namespace SExpr

open Reader

/-! ## The readers of a session -/

section

variable {L L' : Type} [Log L] [Log L'] {lenient : Prop} {R : L → L' → Prop} [Log.Related R]

lemma Recognizer.follows (recognizer : Recognizer) (composites : Bool) (room : Nat) :
    Follows lenient R (recognizer.reader composites room : Reader L Datum)
      (recognizer.reader composites room : Reader L' Datum) := by
  have inside : Follows lenient R (Reader.item composites room : Reader L Datum)
      (Reader.item composites room : Reader L' Datum) := follows_item composites (.inl rfl)
  cases recognizer <;> unfold Recognizer.reader
  · exact follows_expression composites (.inl rfl)
  all_goals infer_instance

lemma Primitive.follows (primitive : Primitive) :
    Follows lenient R (primitive.reader : Reader L Unit) (primitive.reader : Reader L' Unit) := by
  cases primitive <;> unfold Primitive.reader <;> infer_instance

lemma Session.follows_scanner (session : Session) (primitive : Primitive) (offset : Nat) :
    Follows lenient R (session.scanner primitive offset : Reader L Unit)
      (session.scanner primitive offset : Reader L' Unit) := by
  unfold Session.scanner
  split
  · split
    · exact .of_agree (agree_failAt 0 _)
    · infer_instance
  · exact primitive.follows

end

/-! ## Changes on the spot -/

/-- What a reader does to a record and a level of nesting while it reads from some offset on. -/
structure InPlace where
  change : Nat → Trace → Trace

namespace InPlace

instance : Log InPlace where
  nothing := ⟨fun _ state => state⟩
  join first second := ⟨fun offset state => second.change offset (first.change offset state)⟩
  shift distance log := ⟨fun offset state => log.change (offset + distance) state⟩
  missed what := ⟨fun offset state => { state with furthest := state.furthest.note offset what }⟩
  opened := ⟨fun _ state => { state with nesting := state.nesting + 1 }⟩
  closed := ⟨fun _ state => { state with nesting := state.nesting - 1 }⟩

/-- At any offset and in any state the changes come to joining the trace. -/
def Adds (log : InPlace) (trace : Trace) : Prop :=
  ∀ offset state, log.change offset state = Log.join state (Log.shift offset trace)

lemma Adds.join {a b : InPlace} {t u : Trace} (first : a.Adds t) (second : b.Adds u) :
    (Log.join a b : InPlace).Adds (Log.join t u) := fun offset state =>
  calc b.change offset (a.change offset state)
      = Log.join (Log.join state (Log.shift offset t)) (Log.shift offset u) := by
        rw [second, first]
    _ = Log.join state (Log.shift offset (Log.join t u)) := by
        rw [Trace.join_assoc, ← Trace.shift_join]

lemma Adds.shift {log : InPlace} {trace : Trace} (distance : Nat) (adds : log.Adds trace) :
    (Log.shift distance log : InPlace).Adds (Log.shift distance trace) := fun offset state =>
  calc log.change (offset + distance) state
      = Log.join state (Log.shift (offset + distance) trace) := adds _ _
    _ = Log.join state (Log.shift offset (Log.shift distance trace)) := by
        rw [Trace.shift_shift]

lemma adds_missed (what : String) : (Log.missed what : InPlace).Adds (Log.missed what) :=
  fun _ _ => Trace.ext (Furthest.note_eq_join _ _ _) (Int.add_zero _).symm

lemma adds_opened : (Log.opened : InPlace).Adds Log.opened :=
  fun _ _ => Trace.ext (Furthest.join_none _).symm rfl

lemma adds_closed : (Log.closed : InPlace).Adds Log.closed :=
  fun _ _ => Trace.ext (Furthest.join_none _).symm Int.sub_eq_add_neg

instance : Log.Related Adds where
  nothing := fun _ state => (Trace.join_nothing state).symm
  join := Adds.join
  shift := Adds.shift
  missed := adds_missed
  nested adds := adds_opened.join (adds.join adds_closed)
  refused := adds_opened.join adds_closed

end InPlace

/-! ## Sessions -/

namespace Session

variable (session : Session)

/-- Try a reader at an offset, with all changes made on the spot. -/
def attemptAtOnce {α : Type} (reader : Reader InPlace α) (offset : Nat) : Verdict α × Session :=
  let outcome := reader (session.source.drop offset)
  let state := outcome.log.change offset ⟨session.furthest, session.depth⟩
  (outcome.verdict.shift offset,
    { session with depth := state.nesting, furthest := state.furthest })

/-- Do one step, with all changes made on the spot. -/
def performAtOnce : Step → Answer × Session
  | .recognize recognizer offset =>
    let reader := recognizer.reader session.options.composites (session.options.room session.depth)
    let (verdict, after) := session.attemptAtOnce reader offset
    (session.recognized verdict, after)
  | .scan primitive offset =>
    let (verdict, after) := session.attemptAtOnce (session.scanner primitive offset) offset
    (scanned verdict, after)
  | .fail offset what =>
    (.noted, { session with furthest := session.furthest.note offset what })
  | .describe => (.described session.error, session)

variable {session}

lemma attempt_eq_attemptAtOnce {α : Type} {p : Reader InPlace α} {q : Reader Trace α}
    (follows : Follows False InPlace.Adds p q) (offset : Nat) :
    session.attempt q offset = session.attemptAtOnce p offset := by
  rcases follows.agree (session.source.drop offset) with ⟨⟨⟩, -⟩ | ⟨verdicts, adds⟩
  simp only [attempt, attemptAtOnce, verdicts, adds offset]
  rfl

/-- It makes no difference whether failures are noted where they are met or once a reader is
done. -/
lemma perform_eq_performAtOnce (step : Step) :
    session.perform step = session.performAtOnce step := by
  cases step with
  | recognize recognizer offset =>
      rw [perform, performAtOnce, attempt_eq_attemptAtOnce (recognizer.follows _ _)]
  | scan primitive offset =>
      rw [perform, performAtOnce, attempt_eq_attemptAtOnce (session.follows_scanner _ _)]
  | fail offset what => rw [perform, performAtOnce, Furthest.note_eq_join]
  | describe => rfl

end Session

end SExpr
