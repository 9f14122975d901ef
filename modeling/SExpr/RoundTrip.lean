import SExpr.Datum.Equality
import SExpr.Spelling

/-!
# Reading what was spelled

A text is read, what was read is spelled, and the spelling is read again.  The second reading is
strict and allows composite expressions, since a spelling is one expression and may well be
composite.
-/

namespace SExpr

/-- A datum that was read, its spelling, and what was read from that. -/
structure RoundTrip where
  first : Datum
  text : String
  second : Datum
  deriving Repr

namespace RoundTrip

/-- Why a text could not be read, spelled and read again. -/
inductive Error where
  | read (error : ReadError)
  | spell (error : SpellingError)
  deriving Repr

/-- Whether both readings gave the same. -/
def agrees (trip : RoundTrip) : Bool := trip.first.same trip.second

/-- Read a text, spell what it stands for, and read that again. -/
def ofText (source : String) (options : Options) : Except Error RoundTrip := do
  let first ← (Datum.ofText source options).mapError .read
  let text ← first.toText.mapError .spell
  let second ← (Datum.ofText text { strict := true, composites := true }).mapError .read
  return ⟨first, text, second⟩

end RoundTrip

end SExpr
