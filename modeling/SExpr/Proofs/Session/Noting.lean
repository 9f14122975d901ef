import SExpr.Proofs.Session.AtOnce

/-!
# What steps add to the record

What was met before changes nothing for the readers that follow: a step gives the answer that it
gives in a session without a record, and joins to the record what it meets there.  That holds of
steps that are refused too, since the nested expressions they entered are left.

* `Session.fresh` — the same session without a record.
* `Session.noting` — the same session with more in its record.
* `Session.perform_eq_noting` — one step in terms of the fresh session.
* `Session.after_eq_noting`, `performAll_fst` — some steps, by induction.
-/

namespace SExpr.Session

open Reader

variable {session : Session} {step : Step} {steps : List Step} {record : Furthest}

/-! ## One step -/

/-- The session with nothing in its record. -/
def fresh (session : Session) : Session := { session with furthest := none }

/-- The session after failures were met. -/
def noting (session : Session) (met : Furthest) : Session :=
  { session with furthest := session.furthest.join met }

/-- The failures that a step meets. -/
def met (session : Session) (step : Step) : Furthest := (session.fresh.perform step).2.furthest

lemma noting_none : session.noting none = session := by
  rw [noting, Furthest.join_none]

lemma noting_noting (a b : Furthest) : (session.noting a).noting b = session.noting (a.join b) := by
  simp only [noting, Furthest.join_assoc]

/-- A reader joins the furthest failure to the record, and leaves the session at the level where it
stood. -/
lemma attempt_eq_noting {α : Type} {p : Reader Trace α} {q : Reader Furthest α}
    (follows : Follows False Trace.Balanced p q) (offset : Nat) :
    session.attempt p offset = ((session.fresh.attempt p offset).1,
      session.noting (session.fresh.attempt p offset).2.furthest) := by
  rcases follows.agree (session.source.drop offset) with ⟨⟨⟩, -⟩ | ⟨-, balanced⟩
  simp only [attempt, fresh, noting, balanced.nesting_eq, Int.add_zero, Furthest.none_join]

/-- A step gives the answer that it gives without a record, and joins to the record what it leaves
in an empty one. -/
lemma perform_eq_noting (acts : step ≠ .describe) :
    session.perform step =
      ((session.fresh.perform step).1, session.noting (session.met step)) := by
  cases step with
  | recognize recognizer offset =>
      simp only [met, perform]
      rw [attempt_eq_noting (recognizer.follows _ _)]
      rfl
  | scan primitive offset =>
      simp only [met, perform]
      rw [attempt_eq_noting (session.follows_scanner primitive offset)]
      rfl
  | fail offset what => rfl
  | describe => exact absurd rfl acts

/-- The session after a step; to describe the error meets no failure. -/
lemma perform_snd : (session.perform step).2 = session.noting (session.met step) := by
  by_cases describes : step = .describe
  · rw [describes]
    exact noting_none.symm
  · rw [perform_eq_noting describes]

/-! ## Some steps -/

/-- The session after some steps. -/
def after (session : Session) (steps : List Step) : Session :=
  ((session.performAll steps).getLast?.map Prod.snd).getD session

lemma after_cons : session.after (step :: steps) = (session.perform step).2.after steps := by
  rw [after, performAll, after, List.getLast?_cons]
  cases ((session.perform step).2.performAll steps).getLast? <;> rfl

/-- What was met before changes nothing for what a step meets. -/
lemma met_noting : (session.noting record).met step = session.met step := rfl

/-- Steps join to the record what each of them meets, and change nothing else. -/
lemma after_eq_noting (session : Session) (steps : List Step) :
    session.after steps = session.noting ((steps.map session.met).foldl Furthest.join none) := by
  suffices general : ∀ record, (session.noting record).after steps =
      session.noting ((steps.map session.met).foldl Furthest.join record) by
    rw [← general, noting_none]
  induction steps with
  | nil => exact fun record => rfl
  | cons step steps ih =>
      intro record
      rw [after_cons, perform_snd, noting_noting, met_noting, ih, List.map_cons, List.foldl_cons]

/-- Each of some steps gives the answer that it gives without a record. -/
lemma performAll_fst (acts : .describe ∉ steps) : (session.performAll steps).map Prod.fst =
    steps.map fun step => (session.fresh.perform step).1 := by
  induction steps generalizing session with
  | nil => rfl
  | cons step steps ih =>
      rw [List.mem_cons, not_or] at acts
      rw [performAll, List.map_cons, ih acts.2, List.map_cons,
        perform_eq_noting (Ne.symm acts.1)]
      rfl

end SExpr.Session
