/-!
# Lines and columns

A message names a place in a text by its line and column, both counted from one.  Only a line
feed ends a line, and it is the last character of the line that it ends.  An offset past the end
of the text lies in its last line.
-/

namespace SExpr.Text

/-- A place in a text as people count. -/
structure Place where
  line : Nat
  column : Nat
  deriving DecidableEq, Repr

/-- How many characters of a text come after its last line feed. -/
def lastLineLength (text : List Char) : Nat := (text.reverse.takeWhile (· ≠ '\n')).length

/-- The place of an offset in a text. -/
def placeOf (text : List Char) (offset : Nat) : Place :=
  let before := text.take offset
  let lineStart := before.length - lastLineLength before
  ⟨before.count '\n' + 1, offset - lineStart + 1⟩

end SExpr.Text
