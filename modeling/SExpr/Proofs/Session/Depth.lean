import SExpr.Proofs.Counting

/-!
# Every step leaves the level where it was

A session counts the nested expressions that it stands in, and a reader that is tried in it counts
up and down from there.  Whatever comes of the reader, the count is what it was before: there is one
way into a nested expression, and on each way out of it the count goes back.  So no step makes a
later one start deeper, however many were refused in between, and a step has the same answer behind
any others as it has at first.

* `Session.depth_attempt` — one attempt.
* `Session.performAll_depth` — some steps, with the counter changed on the spot or not.
-/

namespace SExpr.Session

variable {session : Session} {step : Step} {steps : List Step}

/-- Whatever a reader comes to, the session is back at its level. -/
lemma depth_attempt (session : Session) (recognizer : Recognizer) (offset : Nat) :
    (session.attempt (session.reader recognizer) offset).2.depth = session.depth := by
  rw [attempt_eq_noting (q := session.reader recognizer) (recognizer.follows _ _)]
  rfl

lemma depth_perform (session : Session) (step : Step) :
    (session.perform step).2.depth = session.depth := by
  rw [perform_snd]
  rfl

/-- Each of some steps leaves the level, by induction on the steps. -/
lemma depth_of_mem_performAll {result : Answer × Session}
    (member : result ∈ session.performAll steps) : result.2.depth = session.depth := by
  induction steps generalizing session with
  | nil => cases member
  | cons step steps ih =>
      rcases List.mem_cons.mp member with rfl | later
      · exact depth_perform session step
      · exact (ih later).trans (depth_perform session step)

/-- Behind any steps a step has the answer that it has without them. -/
lemma perform_after (acts : step ≠ .describe) (before : List Step) :
    ((session.after before).perform step).1 = (session.perform step).1 := by
  have answer (session : Session) : (session.perform step).1 = (session.fresh.perform step).1 := by
    rw [perform_eq_noting acts]
  rw [answer, after_eq_noting]
  exact (answer session).symm

/-- From any session, whatever its level and its record, a reader that counts on the spot comes to
an end, has the verdict and the failures of the reader that is given its room, and is back at the
level of the session: whether it found something, found nothing or was refused, at whatever level.
So is each of some steps, whether the counter is changed on the spot or not.  And behind any other
steps, refused ones among them, a step has the answer that it has without them. -/
theorem performAll_depth (session : Session) :
    (∀ recognizer offset times, session.source.length - offset < times →
      session.attemptCounting (recognizer.counting session.options.composites
          session.options.maxDepth times) offset =
        some (session.attempt (session.reader recognizer) offset)) ∧
    (∀ recognizer offset,
      (session.attempt (session.reader recognizer) offset).2.depth = session.depth) ∧
    (∀ steps times, session.source.length < times →
      session.performAllCounting times steps = some (session.performAll steps)) ∧
    (∀ steps, ∀ result ∈ session.performAll steps, result.2.depth = session.depth) ∧
    ∀ before step, step ≠ .describe →
      ((session.after before).perform step).1 = (session.perform step).1 :=
  ⟨fun recognizer _ _ => attemptCounting_recognizer recognizer,
    depth_attempt session, fun steps _ enough => performAllCounting_eq enough steps,
    fun _ _ => depth_of_mem_performAll,
    fun before _ acts => perform_after acts before⟩

/-- Three levels down and with a limit of four, the inner list is allowed and the atom in it is not.
The list that was refused leaves the session three levels down, so the atom is found when it is
tried by itself as it is in a new session. -/
theorem performAll_depth_refused :
    ((Session.mk "((a))".toList { composites := true, maxDepth := 4 } 3 none).attemptCounting
        (Recognizer.expression.counting true 4 6) 0).map
          (fun result => (result.1, result.2.depth)) = some (.tooDeep 2, 3) ∧
    ((Session.mk "((a))".toList { composites := true, maxDepth := 4 } 3 none).performAllCounting 6
        [.recognize .expression 0, .recognize .item 2]).map
          (·.map fun result => (result.1, result.2.depth)) =
      some [(.refused ⟨"((a))".toList, 2, .tooDeep 4⟩, 3),
        (.recognized (some (.atom "a", 3)), 3)] ∧
    (((Session.mk "((a))".toList { composites := true, maxDepth := 4 } 3 none).after
        [.recognize .expression 0]).perform (.recognize .item 2)).1 =
      .recognized (some (.atom "a", 3)) := by
  obtain ⟨once, -, counted, -, same⟩ :=
    performAll_depth ⟨"((a))".toList, { composites := true, maxDepth := 4 }, 3, none⟩
  have refused := once .expression 0 6 (by decide)
  have both := counted [.recognize .expression 0, .recognize .item 2] 6 (by decide)
  refine ⟨(congrArg (Option.map _) refused).trans rfl, (congrArg (Option.map _) both).trans rfl, ?_⟩
  exact (same [.recognize .expression 0] (.recognize .item 2) (by simp)).trans rfl

end SExpr.Session
