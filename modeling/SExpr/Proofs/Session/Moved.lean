import SExpr.Proofs.Session.Order

/-!
# Text in front of a session

No reader looks behind.  If more text is put in front of the text of a session, and every step is
done that much further on, then all answers stay the same but for the offsets in them, which grow by
the length of what was put in front; so do the places of the failures that are recorded, while what
was wanted there stays the same.

Of readers that are given the whole text and an offset in it anything could be in question: a
character that is looked up, a slice that is cut out, an end that is passed on, a place that is
noted or refused.  Each of them is what a session makes of a reader of the text ahead, for as many
times, and what is ahead is the same further on; so it moves, whether it comes to an end or not.

Where a reader is given no more than the text ahead, only what it notes is in question: a failure
that was noted at an offset counted from the beginning of everything would not move.
`InPlace.Moves` says that changes made on the spot move with the text, and readers respect it, since
what they leave is put together from changes that do.

* `Step.moved`, `Answer.moved`, `Session.moved` — a step, an answer and a session further on.
* `Attempt.counting_moved` — what a session makes of a reader, further on.
* `Session.performDirectly_moved`, `performAtOnce_moved`, `perform_moved` — one step.
* `Session.performAllDirectly_moved`, `performAll_moved` — some steps, by induction.
* `Session.start_append` — all of these for a session in which nothing was done yet.
-/

namespace SExpr

open Reader

/-! ## Further on -/

/-- An error of a text that stands behind more text. -/
def ReadError.moved (front : List Char) (error : ReadError) : ReadError :=
  { error with source := front ++ error.source, offset := front.length + error.offset }

/-- A step that is done further on. -/
def Step.moved (distance : Nat) : Step → Step
  | .recognize recognizer offset => .recognize recognizer (distance + offset)
  | .scan primitive offset => .scan primitive (distance + offset)
  | .fail offset what => .fail (distance + offset) what
  | .describe => .describe

/-- An answer about a text that stands behind more text. -/
def Answer.moved (front : List Char) : Answer → Answer
  | .recognized found => .recognized (found.map fun (datum, stop) => (datum, front.length + stop))
  | .scanned found => .scanned (found.map (front.length + ·))
  | .refused error => .refused (error.moved front)
  | .noted => .noted
  | .described error => .described (error.moved front)

/-- A session whose text stands behind more text. -/
def Session.moved (front : List Char) (session : Session) : Session :=
  { session with
    source := front ++ session.source
    furthest := session.furthest.shift front.length }

/-- The text ahead is the same further on. -/
lemma Session.drop_moved (front : List Char) (session : Session) (offset : Nat) :
    (session.moved front).source.drop (front.length + offset) = session.source.drop offset := by
  simp [moved]

/-! ## Changes that move with the text -/

namespace InPlace

/-- What the first log changes further on is what the second one changes here. -/
def Moves (distance : Nat) (a b : InPlace) : Prop :=
  ∀ offset state, a.change (distance + offset) (Log.shift distance state) =
    Log.shift distance (b.change offset state)

variable {distance : Nat} {a a' b b' : InPlace}

lemma Moves.join (first : Moves distance a a') (second : Moves distance b b') :
    Moves distance (Log.join a b) (Log.join a' b') := by
  intro offset state
  calc b.change (distance + offset) (a.change (distance + offset) (Log.shift distance state))
      = b.change (distance + offset) (Log.shift distance (a'.change offset state)) := by rw [first]
    _ = Log.shift distance (b'.change offset (a'.change offset state)) := second _ _

lemma Moves.shift (further : Nat) (moves : Moves distance a a') :
    Moves distance (Log.shift further a) (Log.shift further a') := by
  intro offset state
  show a.change (distance + offset + further) _ = _
  rw [Nat.add_assoc]
  exact moves _ _

lemma moves_missed (what : String) :
    Moves distance (Log.missed what) (Log.missed what) := by
  intro offset state
  exact Trace.ext (Furthest.note_shift _ _ _ _) rfl

lemma moves_opened : Moves distance Log.opened Log.opened := fun _ _ => rfl

lemma moves_closed : Moves distance Log.closed Log.closed := fun _ _ => rfl

instance : Log.Related (Moves distance) where
  nothing := fun _ _ => rfl
  join := Moves.join
  shift := Moves.shift
  missed := moves_missed
  nested moves := moves_opened.join (moves.join moves_closed)
  refused := moves_opened.join moves_closed

end InPlace

/-! ## Attempts that move with the text -/

/-- What a reader leaves in a session, it leaves further on in the session that has moved. -/
lemma Attempt.left_moved (front : List Char) (session : Session) (offset : Nat) (log : Furthest)
    (depth : Int) :
    left (session.moved front) (front.length + offset) log depth =
      (left session offset log depth).moved front := by
  have record : (session.furthest.shift front.length).join (log.shift (front.length + offset)) =
      (session.furthest.join (log.shift offset)).shift front.length := by
    rw [Furthest.shift_join, Furthest.shift_shift]
  exact congrArg (fun record =>
    { session.moved front with depth := depth, furthest := record }) record

/-- What a session makes of a reader moves: the text ahead is the same, and all that is added to
what comes of it is the offset. -/
lemma Attempt.counting_moved {α : Type} (reader : Counting Furthest α) (front : List Char)
    (session : Session) (offset : Nat) :
    counting reader (session.moved front) (front.length + offset) =
      (counting reader session offset).map
        (Prod.map (Verdict.shift front.length) (Session.moved front)) := by
  have settled (counted : Counted Furthest α) :
      settle (session.moved front) (front.length + offset) counted =
        Prod.map (Verdict.shift front.length) (Session.moved front)
          (settle session offset counted) := by
    rw [settle, left_moved, ← Verdict.shift_shift]
    rfl
  rw [counting, counting, Session.drop_moved, Option.map_map]
  exact congrArg (Option.map · _) (funext settled)

namespace Session

variable {front : List Char} {session : Session} {step : Step} {steps : List Step}

/-! ## One step -/

@[simp] lemma moved_options : (session.moved front).options = session.options := rfl

@[simp] lemma moved_depth : (session.moved front).depth = session.depth := rfl

lemma attemptAtOnce_moved {α : Type} {p : Reader InPlace α}
    (follows : Follows False (InPlace.Moves front.length) p p) (offset : Nat) :
    (session.moved front).attemptAtOnce p (front.length + offset) =
      ((session.attemptAtOnce p offset).1.shift front.length,
        (session.attemptAtOnce p offset).2.moved front) := by
  rcases follows.agree (session.source.drop offset) with ⟨⟨⟩, -⟩ | ⟨-, moves⟩
  have state : (p (session.source.drop offset)).log.change (front.length + offset)
      ⟨(session.moved front).furthest, (session.moved front).depth⟩ = _ :=
    moves offset ⟨session.furthest, session.depth⟩
  simp only [attemptAtOnce, drop_moved, state, Verdict.shift_shift]
  rfl

lemma recognized_moved (verdict : Verdict Datum) :
    (session.moved front).recognized (verdict.shift front.length) =
      (session.recognized verdict).moved front := by
  cases verdict <;> rfl

lemma scanned_moved (verdict : Verdict Unit) :
    scanned (verdict.shift front.length) = (scanned verdict).moved front := by
  cases verdict <;> rfl

/-- The end of the text has moved as well. -/
lemma scanner_moved {L : Type} [Log L] (primitive : Primitive) (offset : Nat) :
    ((session.moved front).scanner primitive (front.length + offset) : Reader L Unit) =
      session.scanner primitive offset := by
  cases primitive <;> simp [scanner, moved]

/-- The error of a session moves, if the session has met a failure. -/
lemma error_moved (failed : session.furthest ≠ none) :
    (session.moved front).error = session.error.moved front := by
  rw [Session.error, Session.error, moved]
  cases record : session.furthest with
  | none => exact absurd record failed
  | some failure => rfl

/-- A step that is done at once gives the same answer further on, and leaves the same session. -/
lemma performAtOnce_moved (described : step = .describe → session.furthest ≠ none) :
    (session.moved front).performAtOnce (step.moved front.length) =
      (session.performAtOnce step).map (Answer.moved front) (moved front) := by
  cases step with
  | recognize recognizer offset =>
      have attempt : (session.moved front).attemptAtOnce (recognizer.reader
          session.options.composites (session.options.room session.depth))
          (front.length + offset) = _ := attemptAtOnce_moved (recognizer.follows _ _) offset
      simp only [Step.moved, performAtOnce, moved_options, moved_depth, attempt, recognized_moved,
        Prod.map_apply]
  | scan primitive offset =>
      have attempt : (session.moved front).attemptAtOnce (session.scanner primitive offset)
          (front.length + offset) = _ := attemptAtOnce_moved (session.follows_scanner _ _) offset
      simp only [Step.moved, performAtOnce, scanner_moved, attempt, scanned_moved,
        Prod.map_apply]
  | fail offset what => simp [Step.moved, performAtOnce, Answer.moved, moved, Furthest.note_shift]
  | describe => simp [Step.moved, performAtOnce, Answer.moved, error_moved (described rfl)]

/-- A step gives the same answer further on, and leaves the same session further on. -/
lemma perform_moved (described : step = .describe → session.furthest ≠ none) :
    (session.moved front).perform (step.moved front.length) =
      (session.perform step).map (Answer.moved front) (moved front) := by
  rw [perform_eq_performAtOnce, perform_eq_performAtOnce, performAtOnce_moved described]

/-- So does a reader that works on the session, however many times it is run. -/
lemma performDirectly_moved (acts : step ≠ .describe) (times : Nat) :
    (session.moved front).performDirectly times (step.moved front.length) =
      (session.performDirectly times step).map (Prod.map (Answer.moved front) (moved front)) := by
  cases step with
  | recognize recognizer offset =>
      rw [Step.moved, performDirectly_recognize, performDirectly_recognize, Attempt.counting_moved,
        Option.map_map, Option.map_map]
      exact congrArg (Option.map · _)
        (funext fun result => Prod.ext (recognized_moved result.1) rfl)
  | scan primitive offset =>
      rw [Step.moved, performDirectly_scan, performDirectly_scan, Attempt.reading, scanner_moved,
        Attempt.counting_moved, Option.map_map, Option.map_map]
      exact congrArg (Option.map · _)
        (funext fun result => Prod.ext (scanned_moved result.1) rfl)
  | fail offset what =>
      rw [Step.moved, performDirectly, performDirectly, note, note, moved, Furthest.note_shift]
      rfl
  | describe => exact absurd rfl acts

/-! ## Some steps -/

/-- What was met is not forgotten. -/
lemma perform_furthest_ne_none (failed : session.furthest ≠ none) :
    (session.perform step).2.furthest ≠ none := by
  rw [perform_snd]
  exact Furthest.join_ne_none failed _

/-- Some steps give the same answers further on, and leave the same sessions further on. -/
lemma performAll_moved (described : .describe ∈ steps → session.furthest ≠ none) :
    (session.moved front).performAll (steps.map (Step.moved front.length)) =
      (session.performAll steps).map (Prod.map (Answer.moved front) (moved front)) := by
  induction steps generalizing session with
  | nil => rfl
  | cons step steps ih =>
      have first : (session.moved front).perform (step.moved front.length) = _ :=
        perform_moved fun same => described (by simp [same])
      have rest : ((session.perform step).2.moved front).performAll
          (steps.map (Step.moved front.length)) = _ :=
        ih fun later => perform_furthest_ne_none (described (List.mem_cons_of_mem _ later))
      simp [performAll, first, rest, Prod.map]

/-- So they do with readers that work on the session. -/
lemma performAllDirectly_moved (acts : .describe ∉ steps) (times : Nat) :
    (session.moved front).performAllDirectly times (steps.map (Step.moved front.length)) =
      (session.performAllDirectly times steps).map
        (List.map (Prod.map (Answer.moved front) (moved front))) := by
  induction steps generalizing session with
  | nil => rfl
  | cons step steps ih =>
      rw [List.mem_cons, not_or] at acts
      have first : (session.moved front).performDirectly times (step.moved front.length) = _ :=
        performDirectly_moved (Ne.symm acts.1) times
      rw [List.map_cons, performAllDirectly, performAllDirectly, first]
      cases session.performDirectly times step with
      | none => rfl
      | some result =>
          have rest : (result.2.moved front).performAllDirectly times
              (steps.map (Step.moved front.length)) = _ := ih acts.2
          show ((result.2.moved front).performAllDirectly times _).bind _ =
            ((result.2.performAllDirectly times steps).bind _).map _
          rw [rest]
          cases result.2.performAllDirectly times steps <;> rfl

/-- No reader looks behind.  A step at some offset behind more text gives the answer that it gives
without that text, and leaves the record that it leaves without it, with all offsets moved by as
much: where an expression ends, where one is nested too deeply, and where the furthest failure is.
What was wanted there is the same.  So it is for failures that are noted at once, and for some steps
one after another.

That holds above all of readers that are given the whole text, an offset in it and the session, and
could look behind.  However many times they are run, a step comes to the same further on, if it
comes to an end at all; and one more time than there are characters is enough for the answers and
sessions that readers of the text ahead come to. -/
theorem start_append (front source : List Char) (options : Options) :
    (∀ steps times, source.length < times →
      (start source options).performAllDirectly times steps =
        some ((start source options).performAll steps)) ∧
    (∀ step times, step ≠ .describe →
      (start (front ++ source) options).performDirectly times (step.moved front.length) =
        ((start source options).performDirectly times step).map
          (Prod.map (Answer.moved front) (moved front))) ∧
    (∀ steps times, .describe ∉ steps →
      (start (front ++ source) options).performAllDirectly times
          (steps.map (Step.moved front.length)) =
        ((start source options).performAllDirectly times steps).map
          (List.map (Prod.map (Answer.moved front) (moved front)))) ∧
    (∀ step, step ≠ .describe →
      (start (front ++ source) options).perform (step.moved front.length) =
        ((start source options).perform step).map (Answer.moved front) (moved front) ∧
      (start (front ++ source) options).performAtOnce (step.moved front.length) =
        ((start source options).performAtOnce step).map (Answer.moved front) (moved front)) ∧
    ∀ steps, .describe ∉ steps →
      (start (front ++ source) options).performAll (steps.map (Step.moved front.length)) =
        ((start source options).performAll steps).map
          (Prod.map (Answer.moved front) (moved front)) := by
  have further : start (front ++ source) options = (start source options).moved front := rfl
  rw [further]
  refine ⟨fun steps times enough => performAllDirectly_eq enough steps,
    fun step times acts => performDirectly_moved acts times,
    fun steps times acts => performAllDirectly_moved acts times,
    fun step acts => ⟨?_, ?_⟩, fun steps acts => ?_⟩
  · exact perform_moved fun same => absurd same acts
  · exact performAtOnce_moved fun same => absurd same acts
  · exact performAll_moved fun member => absurd member acts

/-- Behind `ab` the form `(c (d` is refused two characters further on than without it, and the point
that was wanted in that place is recorded there.  The next step finds no digits behind `ab(`, as it
finds none behind `(`.  So it is if the readers are given all of the text, and are run as many times
as without `ab`. -/
theorem start_append_refused :
    (start "ab(c (d".toList { composites := true, maxDepth := 1 }).perform
        (.recognize .expression 2) =
      (.refused ⟨"ab(c (d".toList, 6, .tooDeep 1⟩,
        ⟨"ab(c (d".toList, { composites := true, maxDepth := 1 }, 0, some ⟨6, .singleton "'.'"⟩⟩) ∧
    ((start "ab(c (d".toList { composites := true, maxDepth := 1 }).performAll
        [.recognize .expression 2, .scan .digits 3]).map Prod.fst =
      [.refused ⟨"ab(c (d".toList, 6, .tooDeep 1⟩, .scanned none] ∧
    ((start "ab(c (d".toList { composites := true, maxDepth := 1 }).performAllDirectly 6
        [.recognize .expression 2, .scan .digits 3]).map (·.map Prod.fst) =
      some [.refused ⟨"ab(c (d".toList, 6, .tooDeep 1⟩, .scanned none] := by
  obtain ⟨enough, -, direct, once, steps⟩ :=
    start_append "ab".toList "(c (d".toList { composites := true, maxDepth := 1 }
  have both := steps [.recognize .expression 0, .scan .digits 1] (by simp)
  have further := direct [.recognize .expression 0, .scan .digits 1] 6 (by simp)
  rw [enough _ _ (by decide)] at further
  refine ⟨(once (.recognize .expression 0) (by simp)).1.trans ?_,
    (congrArg (List.map Prod.fst) both).trans ?_,
    (congrArg (Option.map (List.map Prod.fst)) further).trans ?_⟩
  all_goals rfl

end Session

end SExpr
