import SExpr.Binary64.Basic

/-!
# Data

What a text stands for is a *datum*: a tree whose leaves are atoms, numbers, texts, truth values
and characters, and whose inner nodes are lists and dotted pairs.  A dotted pair keeps its items
and its tail apart, so it never coincides with a list, and a ratio is kept as it was written,
without being reduced.

* `height` — how many lists and dotted pairs the deepest leaf lies in.  An empty list has height
  one: the node itself counts, whether or not anything is in it.
-/

namespace SExpr

/-- A quotient of integers as it was written. -/
structure Ratio where
  numerator : Int
  denominator : Int
  denominator_ne_zero : denominator ≠ 0
  deriving DecidableEq, Repr

/-- What a text stands for. -/
inductive Datum where
  /-- A name. -/
  | atom (name : String)
  /-- A sequence of data. -/
  | list (items : List Datum)
  /-- A sequence of data with something other than the end of a list behind it. -/
  | dotted (items : List Datum) (tail : Datum)
  /-- A whole number. -/
  | integer (value : Int)
  /-- A piece of text. -/
  | text (value : String)
  /-- A truth value. -/
  | boolean (value : Bool)
  /-- A single character. -/
  | character (value : Char)
  /-- A double-precision number. -/
  | float (value : Binary64)
  /-- A quotient of whole numbers. -/
  | ratio (value : Ratio)
  /-- A complex number, by its real and imaginary parts. -/
  | complex (real imaginary : Binary64)
  deriving Repr

namespace Datum

instance : Inhabited Datum := ⟨.list []⟩

/-- The datum that a quoted datum stands for. -/
def quote (datum : Datum) : Datum := .list [.atom "quote", datum]

mutual

/-- How many lists and dotted pairs the deepest leaf of a datum lies in. -/
def height : Datum → Nat
  | .list items => 1 + heights items
  | .dotted items tail => 1 + max (heights items) tail.height
  | _ => 0

/-- The greatest height among some data, zero if there are none. -/
def heights : List Datum → Nat
  | [] => 0
  | first :: rest => max first.height (heights rest)

end

/-- Whether a datum is neither a list nor a dotted pair. -/
def isLeaf : Datum → Bool
  | .list _ => false
  | .dotted _ _ => false
  | _ => true

end Datum

end SExpr
