import SExpr.Unicode.Ranges

/-!
# White space

The code points that separate expressions: the separators Zs, Zl and Zp, and the controls that
break a line or a field (U+0009 to U+000D, U+001C to U+001F and U+0085).
-/

namespace SExpr.Unicode

/-- The white space code points. -/
def spaceRanges : Ranges :=
  [(0x9, 0xd), (0x1c, 0x20), (0x85, 0x85), (0xa0, 0xa0), (0x1680, 0x1680), (0x2000, 0x200a),
   (0x2028, 0x2029), (0x202f, 0x202f), (0x205f, 0x205f), (0x3000, 0x3000)]

/-- Whether a character is white space. -/
def isSpace (c : Char) : Bool := spaceRanges.contains c.toNat

end SExpr.Unicode
