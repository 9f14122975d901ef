import SExpr.Reader.Primitive
import SExpr.Reader.Symbol
import SExpr.Datum.Basic
import SExpr.Numeral.Radix

/-!
# Readers of atoms and of literals with a number sign

Truth values, characters and integers with a tag start with a number sign, which is also a
symbol that an atom may start with.  An atom makes room for these literals: where one of them can
be read, even if more would belong to the atom, there is no atom.
-/

namespace SExpr.Reader

variable {L : Type} [Log L]

/-! ## Literals with a number sign -/

/-- The character that a name stands for: two have names, and a letter stands for itself.  No
letter outside ASCII is a capital of one in these names, so ASCII case is all that matters. -/
def namedCharacter? (name : List Char) : Option Char :=
  let lower := name.map Char.toLower
  if lower = "space".toList then some ' '
  else if lower = "newline".toList then some '\n'
  else match name with
    | [c] => some c
    | _ => none

/-- Read a character. -/
def character : Reader L Datum := do
  token "#\\"
  let c ← refine (many Unicode.isLetter "letter" 1) namedCharacter? "character name"
  return .character c

/-- The truth value that a letter stands for. -/
def truthValue? : Char → Option Bool
  | 't' => some true
  | 'f' => some false
  | _ => none

/-- Read a truth value. -/
def boolean : Reader L Datum := do
  token "#"
  let value ← pick truthValue? "'t' or 'f'"
  return .boolean value

/-- Read an integer in the base that its tag tells. -/
def radixInteger : Reader L Datum := do
  token "#"
  let radix ← pick Numeral.Radix.ofTag? "radix tag"
  let numeral ← many radix.isDigit radix.digitName 1
  return .integer (radix.value numeral)

/-! ## Atoms -/

/-- Whether a number sign is ahead and behind it a character with which another literal than an
atom could go on. -/
def looksTagged : List Char → Bool
  | '#' :: tag :: _ => ['t', 'f', '\\', 'b', 'o', 'd', 'x'].contains tag
  | _ => false

/-- Read any literal, other than an atom, that starts with a number sign. -/
def taggedLiteral : Reader L Datum := firstOf [boolean, character, radixInteger]

/-- Read an atom. -/
def atom : Reader L Datum := do
  checkWhen looksTagged (notAhead taggedLiteral)
  let first ← satisfy isAtomStart "letter or symbol"
  let rest ← many isAtomChar "letter, digit or symbol" 0
  return .atom (String.ofList (first :: rest))

end SExpr.Reader
