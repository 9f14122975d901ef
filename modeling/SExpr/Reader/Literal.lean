import SExpr.Reader.Number
import SExpr.Reader.Quotation

/-!
# The kinds of literals

A literal is an expression with no other inside it.  Several kinds can start alike, and the first
kind in order that finds something wins.  Of numbers the kinds that go on furthest come first, so
that a complex number is not taken for a float, nor a ratio for an integer.
-/

namespace SExpr

/-- The kinds of literals. -/
inductive Literal where
  | atom
  | text
  | character
  | complex
  | float
  | ratio
  | integer
  | boolean
  deriving DecidableEq, Repr

namespace Literal

variable {L : Type} [Log L]

/-- The kinds of literals in the order in which they are tried. -/
def inOrder : List Literal :=
  [.atom, .text, .character, .complex, .float, .ratio, .integer, .boolean]

/-- The reader of the literals of one kind. -/
def reader : Literal → Reader L Datum
  | .atom => Reader.atom
  | .text => Reader.text
  | .character => Reader.character
  | .complex => Reader.complex
  | .float => Reader.float
  | .ratio => Reader.ratio
  | .integer => Reader.integer
  | .boolean => Reader.boolean

/-- Read a literal, trying the kinds in the given order. -/
def firstIn (order : List Literal) : Reader L Datum := Reader.firstOf (order.map reader)

end Literal

end SExpr
