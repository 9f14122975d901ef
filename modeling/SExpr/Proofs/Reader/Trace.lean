import SExpr.Proofs.Parallel.Basic
import SExpr.Proofs.Reader.Furthest
import SExpr.Reader.Trace

/-!
# Traces add up

A trace is a failure and a number of levels, so traces are joined in any grouping, and a trace seen
from further left is joined of its parts seen from there.  What a reader writes is balanced:
whatever comes of a nested expression, it is left when it is done with, even where it is refused.

* `Trace.join_nothing`, `join_assoc`, `shift_join`, `shift_shift` — the laws of traces.
* `Trace.Balanced` — as many nested expressions are left as were entered.
-/

namespace SExpr

attribute [ext] Trace

namespace Trace

lemma join_nothing (trace : Trace) : Log.join trace Log.nothing = trace :=
  Trace.ext (Furthest.join_none _) (Int.add_zero _)

lemma join_assoc (a b c : Trace) : Log.join (Log.join a b) c = Log.join a (Log.join b c) :=
  Trace.ext (Furthest.join_assoc _ _ _) (Int.add_assoc _ _ _)

lemma shift_join (distance : Nat) (a b : Trace) :
    Log.shift distance (Log.join a b) = Log.join (Log.shift distance a) (Log.shift distance b) :=
  Trace.ext (Furthest.shift_join _ _ _) rfl

lemma shift_shift (m n : Nat) (trace : Trace) :
    Log.shift m (Log.shift n trace) = Log.shift (m + n) trace :=
  Trace.ext (Furthest.shift_shift _ _ _) rfl

/-- A trace that tells of one failure, the furthest, and leaves as many nested expressions as it
enters. -/
def Balanced (trace : Trace) (furthest : Furthest) : Prop := trace = ⟨furthest, 0⟩

lemma Balanced.nesting_eq {trace : Trace} {furthest : Furthest}
    (balanced : trace.Balanced furthest) : trace.nesting = 0 := by rw [balanced]

instance : Log.Related Balanced where
  nothing := rfl
  join first second := by rw [first, second]; rfl
  shift _ same := by rw [same]; rfl
  missed _ := rfl
  nested same := by rw [same]; rfl
  refused := rfl

end Trace

end SExpr
