import SExpr.Session

/-!
# All failures, one by one

The record of a session keeps the furthest failure and no other.  What is said of every place where
something was wanted and did not stand has to be said of a longer log: of all these places, in the
order in which readers come upon them, with those that an alternative made good among them.
-/

namespace SExpr

/-- Something that was wanted at an offset and did not stand there. -/
structure Miss where
  offset : Nat
  what : String
  deriving DecidableEq, Repr

/-- The same, seen from further left. -/
def Miss.shift (distance : Nat) (miss : Miss) : Miss :=
  { miss with offset := distance + miss.offset }

/-- All that was wanted and did not stand there, one after another. -/
structure Failures where
  misses : List Miss
  deriving DecidableEq, Repr

instance : Log Failures where
  nothing := ⟨[]⟩
  join a b := ⟨a.misses ++ b.misses⟩
  shift distance failures := ⟨failures.misses.map (Miss.shift distance)⟩
  missed what := ⟨[⟨0, what⟩]⟩
  opened := ⟨[]⟩
  closed := ⟨[]⟩

/-- All that a reader of expressions wants in vain when it is tried at an offset of a session. -/
def Session.failures (session : Session) (recognizer : Recognizer) (offset : Nat) : List Miss :=
  let reader := recognizer.reader session.options.composites (session.options.room session.depth)
  (Log.shift offset (reader (session.source.drop offset)).log : Failures).misses

end SExpr
