/-!
# What a reader leaves behind

Besides its verdict a reader leaves a *log*: the failures it met, even those that an alternative
made good, and the nested expressions it entered.  Offsets in a log count from where the reader
started, so a log that becomes part of another is shifted first.

Readers are written over any kind of log and can only add to it; what they find cannot depend on
it.  Which log to keep is the caller's choice: the furthest failure for a message, the offsets of
nested expressions for a count of the work.
-/

namespace SExpr

/-- A kind of log that readers can write. -/
class Log (L : Type) where
  /-- The log of a reader that met nothing worth noting. -/
  nothing : L
  /-- The log of two readers together. -/
  join : L → L → L
  /-- A log seen from a number of characters further left. -/
  shift : Nat → L → L
  /-- Something was wanted right here and was not found. -/
  missed : String → L
  /-- A nested expression is entered right here. -/
  opened : L
  /-- The nested expression that was entered last is left. -/
  closed : L

end SExpr
