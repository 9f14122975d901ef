import SExpr.Entry

/-!
# Where nested expressions are entered

Reading one expression inside another is the only thing that a reader does which can do more of the
same.  So the cost of a reading shows in the offsets at which it entered nested expressions, in the
order in which it did; one that it refused to enter is counted too.
-/

namespace SExpr

/-- The offsets at which nested expressions were entered, one after another. -/
structure Visits where
  offsets : List Nat
  deriving DecidableEq, Repr

instance : Log Visits where
  nothing := ⟨[]⟩
  join a b := ⟨a.offsets ++ b.offsets⟩
  shift distance visits := ⟨visits.offsets.map (distance + ·)⟩
  missed _ := ⟨[]⟩
  opened := ⟨[0]⟩
  closed := ⟨[]⟩

/-- What reading a text comes to, with the offsets at which it entered nested expressions. -/
def Entry.visiting (entry : Entry) (options : Options) (source : String) : Outcome Visits Datum :=
  entry.reader options.composites (options.room 0) source.toList

end SExpr
