import SExpr.Reader.Furthest

/-!
# Nesting, and the trace of a session

A session keeps two things from one reading to the next: the furthest failure, and how deep in
nested expressions it stands.  A reader moves the second by one whenever it enters or leaves a
nested expression, whatever comes of it.
-/

namespace SExpr

/-- What a reading changes in a session. -/
structure Trace where
  furthest : Furthest
  /-- How many nested expressions were entered, less those that were left. -/
  nesting : Int

namespace Trace

instance : Log Trace where
  nothing := ⟨Log.nothing, 0⟩
  join a b := ⟨Log.join a.furthest b.furthest, a.nesting + b.nesting⟩
  shift distance trace := { trace with furthest := Log.shift distance trace.furthest }
  missed what := ⟨Log.missed what, 0⟩
  opened := ⟨Log.opened, 1⟩
  closed := ⟨Log.closed, -1⟩

end Trace

end SExpr
