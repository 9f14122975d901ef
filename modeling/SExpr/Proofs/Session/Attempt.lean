import SExpr.Proofs.Expression
import SExpr.Session

/-!
# What an attempt comes to

An attempt at an offset comes to what the reader comes to on the text from there on, with the offset
added to every place that it names.

* `Session.reader` — the reader that a recognizer stands for, given the session's options and level.
* `Session.attempt_eq_found_iff`, `attempt_eq_missing_iff` — attempts in terms of `Reads` and
  `Misses`.
* `Session.tooDeep_of_attempt` — where a refused attempt points.
-/

namespace SExpr

open Reader

instance {L : Type} [Log L] (recognizer : Recognizer) (composites : Bool) (room : Nat) :
    Bounded (recognizer.reader composites room : Reader L Datum) := by
  cases recognizer <;> unfold Recognizer.reader
  · exact inferInstanceAs (Bounded (Entry.expression.reader composites room))
  all_goals infer_instance

namespace Session

/-- The reader that a recognizer stands for in a session. -/
abbrev reader {L : Type} [Log L] (session : Session) (recognizer : Recognizer) : Reader L Datum :=
  recognizer.reader session.options.composites (session.options.room session.depth)

variable {α : Type} {session : Session} {p : Reader Trace α} {offset stop place : Nat} {a : α}

lemma attempt_eq_found_iff [Bounded p] : (session.attempt p offset).1 = .found a stop ↔
    ∃ front rest, session.source.drop offset = front ++ rest ∧ Reads p front rest a ∧
      stop = offset + front.length := by
  show (p (session.source.drop offset)).verdict.shift offset = .found a stop ↔ _
  constructor
  · intro found
    cases verdict : (p (session.source.drop offset)).verdict with
    | missing => simp [verdict, Verdict.shift] at found
    | tooDeep place => simp [verdict, Verdict.shift] at found
    | found b length =>
        rw [verdict, Verdict.shift, Verdict.found.injEq] at found
        obtain ⟨rfl, rfl⟩ := found
        refine ⟨_, _, (List.take_append_drop length _).symm, Bounded.reads verdict, ?_⟩
        rw [List.length_take_of_le (Bounded.length_le verdict)]
  · rintro ⟨front, rest, split, found, rfl⟩
    rw [Reads] at found
    rw [split, found, Verdict.shift]

lemma attempt_eq_missing_iff :
    (session.attempt p offset).1 = .missing ↔ Misses p (session.source.drop offset) :=
  Verdict.shift_eq_missing_iff

/-- A refused attempt points at a place behind its own offset, and not behind the text. -/
lemma tooDeep_of_attempt [Bounded p] (inside : offset ≤ session.source.length)
    (refused : (session.attempt p offset).1 = .tooDeep place) :
    offset ≤ place ∧ place ≤ session.source.length := by
  have shifted : (p (session.source.drop offset)).verdict.shift offset = .tooDeep place := refused
  cases verdict : (p (session.source.drop offset)).verdict with
  | missing => simp [verdict, Verdict.shift] at shifted
  | found b length => simp [verdict, Verdict.shift] at shifted
  | tooDeep further =>
      rw [verdict, Verdict.shift, Verdict.tooDeep.injEq] at shifted
      have bound := Bounded.offset_le verdict
      rw [List.length_drop] at bound
      omega

end Session

end SExpr
