import SExpr.Unicode.Letter

/-!
# The characters of atoms

An atom starts with a letter of any script or one of a few symbols, and goes on with these and
the ten ASCII digits.
-/

namespace SExpr

/-- The characters besides letters and digits that an atom may hold. -/
def symbols : List Char := "!#$%&*|+-/:<=>?@^_~".toList

/-- Whether an atom may start with a character. -/
def isAtomStart (c : Char) : Bool := Unicode.isLetter c || symbols.contains c

/-- Whether an atom may go on with a character. -/
def isAtomChar (c : Char) : Bool := isAtomStart c || c.isDigit

end SExpr
