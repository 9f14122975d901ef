import SExpr.Binary64.Spelling
import SExpr.Entry

/-!
# Spelling data

A datum is spelled as a text that reads back as it.  Not every datum can be: the reader knows no
negative numbers and no infinities, of characters only the letters, the blank and the line feed,
and it takes some names for something else.  Of several things that cannot be spelled, the first
from left to right is the error.

An atom is spelled if the strict reader takes its name for that very atom, so the rules about
names are nowhere said a second time.

* `Datum.toText` — the text of a datum, or what in it cannot be spelled.
-/

namespace SExpr

/-- What cannot be spelled. -/
inductive SpellingError where
  | atom (name : String)
  | character (c : Char)
  | negative (n : Int)
  | float (x : Binary64)
  deriving DecidableEq, Repr

namespace SpellingError

/-- The wording of an error. -/
def message : SpellingError → String
  | .atom name => "no literal syntax for atom " ++ Text.quoted name
  | .character c => "no literal syntax for character " ++ Text.quoted (String.singleton c)
  | .negative n => "no literal syntax for negative number " ++ Numeral.decimalText n
  | .float x => "no literal syntax for float " ++ x.messageText

end SpellingError

namespace Spelling

/-! ## Leaves -/

/-- Whether the strict reader takes a name for the atom of that name. -/
def readsAsAtom (name : String) : Bool :=
  match Datum.ofText name { strict := true } with
  | .ok (.atom other) => other == name
  | _ => false

/-- The spelling of an atom. -/
def atom (name : String) : Except SpellingError (List Char) :=
  if readsAsAtom name then .ok name.toList else .error (.atom name)

/-- The spelling of an integer. -/
def integer : Int → Except SpellingError (List Char)
  | .ofNat n => .ok (Numeral.decimalDigits n)
  | .negSucc n => .error (.negative (.negSucc n))

/-- How one character is written between double quotation marks. -/
def escaped : Char → List Char
  | '\\' => ['\\', '\\']
  | '"' => ['\\', '"']
  | '\n' => ['\\', 'n']
  | '\r' => ['\\', 'r']
  | '\t' => ['\\', 't']
  | c => [c]

/-- The spelling of a piece of text. -/
def text (content : List Char) : List Char := '"' :: content.flatMap escaped ++ ['"']

/-- The spelling of a character. -/
def character (c : Char) : Except SpellingError (List Char) :=
  if c = ' ' then .ok "#\\space".toList
  else if c = '\n' then .ok "#\\newline".toList
  else if Unicode.isLetter c then .ok ['#', '\\', c]
  else .error (.character c)

/-- The spelling of a double. -/
def float (x : Binary64) : Except SpellingError (List Char) :=
  if x.isFinite ∧ x.negative = false then .ok x.positional else .error (.float x)

/-! ## Trees -/

/-- Texts with a blank between them. -/
def spaced : List (List Char) → List Char
  | [] => []
  | [only] => only
  | first :: rest => first ++ ' ' :: spaced rest

mutual

/-- The spelling of a datum. -/
def datum : Datum → Except SpellingError (List Char)
  | .atom name => atom name
  | .list items => do
    let texts ← data items
    return '(' :: spaced texts ++ [')']
  | .dotted items tail => do
    let texts ← data items
    let last ← datum tail
    return '(' :: texts.flatMap (· ++ [' ']) ++ '.' :: ' ' :: last ++ [')']
  | .integer value => integer value
  | .text value => .ok (text value.toList)
  | .boolean value => .ok ['#', if value then 't' else 'f']
  | .character value => character value
  | .float value => float value
  | .ratio value => do
    let numerator ← integer value.numerator
    let denominator ← integer value.denominator
    return numerator ++ '/' :: denominator
  | .complex real imaginary => do
    let real ← float real
    let imaginary ← float imaginary
    return real ++ '+' :: imaginary ++ ['i']

/-- The spellings of some data, from left to right. -/
def data : List Datum → Except SpellingError (List (List Char))
  | [] => .ok []
  | first :: rest => do
    let text ← datum first
    return text :: (← data rest)

end

end Spelling

/-- The text that reads back as a datum. -/
def Datum.toText (datum : Datum) : Except SpellingError String :=
  (Spelling.datum datum).map String.ofList

end SExpr
