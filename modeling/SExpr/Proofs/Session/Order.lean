import Mathlib.Data.List.Perm.Basic
import SExpr.Proofs.Attempt.Readers

/-!
# Steps in any order

A session that hands its record to the readers gets the answers of one that does not, and the same
record: what is in it already is joined to what a step leaves in an empty one, and is not looked at
for anything else.  The join does not ask for the order, so the record after some steps does not
either.

* `Attempt.counting_fresh` — an attempt in terms of the session without a record.
* `Session.performDirectly_eq_fresh` — one step, with the reader working on the session.
* `Session.after_perm` — the session after steps in another order.
* `Session.performAll_order` — steps in any order, with each failure noted at once or not.
-/

namespace SExpr

/-- The session as it is after a step, with what was recorded before the step. -/
def Session.recalling (session after : Session) : Session :=
  { after with furthest := session.furthest.join after.furthest }

/-- What a session makes of a reader does not depend on the record, which is joined to. -/
lemma Attempt.counting_fresh {α : Type} (reader : Counting Furthest α) (session : Session)
    (offset : Nat) :
    counting reader session offset =
      (counting reader session.fresh offset).map (Prod.map id session.recalling) := by
  rw [counting, counting, Option.map_map]
  rfl

namespace Session

variable {session : Session} {step : Step} {steps order : List Step}

/-- A reader that works on the session comes to the same whatever is recorded there, and leaves in
the record what it leaves in an empty one, joined to what was there. -/
lemma performDirectly_eq_fresh (acts : step ≠ .describe) (times : Nat) :
    session.performDirectly times step =
      (session.fresh.performDirectly times step).map (Prod.map id session.recalling) := by
  cases step with
  | recognize recognizer offset =>
      rw [performDirectly_recognize, performDirectly_recognize, Attempt.counting_fresh,
        Option.map_map, Option.map_map]
      rfl
  | scan primitive offset =>
      rw [performDirectly_scan, performDirectly_scan, Attempt.reading, Attempt.counting_fresh,
        Option.map_map, Option.map_map]
      rfl
  | fail offset what =>
      rw [performDirectly, performDirectly, Attempt.note_eq_noting, Attempt.note_eq_noting]
      rfl
  | describe => exact absurd rfl acts

/-- In any order steps come to the same session. -/
lemma after_perm (session : Session) (perm : order.Perm steps) :
    session.after order = session.after steps := by
  have commutes : RightCommutative Furthest.join := ⟨Furthest.join_right_comm⟩
  rw [after_eq_noting, after_eq_noting, (perm.map session.met).foldl_eq]

/-- The record of a session has no influence on what is read, and keeps the furthest of all
failures.

A step comes to the same whether each failure is noted as soon as it is met or all of them when the
reader is done, and whether the readers are kept from the record or are given it with the session
and work on that.  A reader that is given the record comes to what it comes to where nothing is
recorded, and leaves what it leaves there joined to the record.  So a step gives the same answer as
in a session without a record, and joins to the record what it leaves in an empty one, and in any
order some steps give the same answers each, and come to the same record and the same error.  Steps
that are refused are no exception. -/
theorem performAll_order (session : Session) :
    (∀ step, session.perform step = session.performAtOnce step) ∧
    (∀ steps times, session.source.length < times →
      session.performAllDirectly times steps = some (session.performAll steps)) ∧
    (∀ step times, step ≠ .describe → session.performDirectly times step =
      (session.fresh.performDirectly times step).map fun result =>
        (result.1, { result.2 with
          furthest := session.furthest.join result.2.furthest })) ∧
    (∀ step, step ≠ .describe → session.perform step =
      ((session.fresh.perform step).1,
        { session with
          furthest := session.furthest.join (session.fresh.perform step).2.furthest })) ∧
    ∀ steps order : List Step, .describe ∉ steps → order.Perm steps →
      (session.performAll order).map Prod.fst =
        order.map (fun step => (session.fresh.perform step).1) ∧
      session.after order = session.after steps ∧
      (session.after order).error = (session.after steps).error := by
  refine ⟨fun _ => perform_eq_performAtOnce _, fun steps times enough => ?_,
    fun step times acts => performDirectly_eq_fresh acts times, fun _ => perform_eq_noting, ?_⟩
  · exact performAllDirectly_eq enough steps
  · intro steps order acts perm
    have same := after_perm session perm
    exact ⟨performAll_fst fun describes => acts (perm.mem_iff.mp describes), same, by rw [same]⟩

/-- No level is allowed, so the list is refused; before that a point was wanted where its first item
is.  The error names the point, the digit that another step wants at the same place, and what the
record named already.  Readers that are given that record are refused all the same, and find no
digit either. -/
theorem performAll_order_refused :
    ((start "(a".toList { composites := true, maxDepth := 0 }).noting (.missedAt 1 "x")).perform
        (.recognize .expression 0) =
      (.refused ⟨"(a".toList, 1, .tooDeep 0⟩,
        (start "(a".toList { composites := true, maxDepth := 0 }).noting
          (some ⟨1, .ofList ["x", "'.'"]⟩)) ∧
    (((start "(a".toList { composites := true, maxDepth := 0 }).noting (.missedAt 1 "x")).performAll
        [.scan .digits 1, .recognize .expression 0]).map Prod.fst =
      [.scanned none, .refused ⟨"(a".toList, 1, .tooDeep 0⟩] ∧
    (((start "(a".toList { composites := true, maxDepth := 0 }).noting
        (.missedAt 1 "x")).performAllDirectly 3
          [.scan .digits 1, .recognize .expression 0]).map (·.map Prod.fst) =
      some [.scanned none, .refused ⟨"(a".toList, 1, .tooDeep 0⟩] ∧
    (((start "(a".toList { composites := true, maxDepth := 0 }).noting (.missedAt 1 "x")).after
        [.scan .digits 1, .recognize .expression 0]).error =
      ⟨"(a".toList, 1, .unexpected (.ofList ["x", "'.'", "digit"])⟩ := by
  obtain ⟨-, direct, -, once, steps⟩ := performAll_order
    ((start "(a".toList { composites := true, maxDepth := 0 }).noting (.missedAt 1 "x"))
  obtain ⟨answers, -, error⟩ := steps [.recognize .expression 0, .scan .digits 1]
    [.scan .digits 1, .recognize .expression 0] (by simp) (.swap _ _ [])
  have both := direct [.scan .digits 1, .recognize .expression 0] 3 (by decide)
  refine ⟨(once (.recognize .expression 0) (by simp)).trans ?_, answers.trans ?_,
    (congrArg (Option.map _) both).trans ?_, error.trans ?_⟩
  all_goals rfl

end Session

end SExpr
