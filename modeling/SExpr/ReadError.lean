import SExpr.Numeral.Decimal
import SExpr.Reader.Furthest
import SExpr.Text.Place
import SExpr.Text.Quoted

/-!
# Why a text cannot be read

A text that cannot be read gives a place and a cause.  Either nothing that was wanted stands at
the furthest place that was reached, or an expression there is nested too deeply.  The message
is one line: it names the place, and for the first cause what stands there and what would do.
-/

namespace SExpr

/-- Why a text cannot be read from some place on. -/
inductive ReadFault where
  /-- None of these stands there. -/
  | unexpected (expected : Expected)
  /-- More levels of nesting start there than the limit allows. -/
  | tooDeep (limit : Int)
  deriving DecidableEq, Repr

/-- Where a text cannot be read, and why. -/
structure ReadError where
  source : List Char
  offset : Nat
  fault : ReadFault
  deriving DecidableEq, Repr

namespace ReadError

/-- The error of a reading whose furthest failure is given; without one it is at the beginning. -/
def ofFurthest (source : List Char) (furthest : Furthest) : ReadError :=
  ⟨source, furthest.offset, .unexpected furthest.expected⟩

/-- The line and column of an error. -/
def place (error : ReadError) : Text.Place := Text.placeOf error.source error.offset

/-- The character that stands where the error is, unless that is the end of the text. -/
def found (error : ReadError) : Option Char := error.source[error.offset]?

/-- What was wanted where the error is. -/
def expected (error : ReadError) : List String :=
  match error.fault with
  | .unexpected expected => expected.descriptions
  | .tooDeep _ => []

/-- Several descriptions in one phrase. -/
def alternatives : List String → String
  | [] => ""
  | [only] => only
  | several => ", ".intercalate several.dropLast ++ " or " ++ several.getLastD ""

/-- What stands where an error is, in words. -/
def foundText (error : ReadError) : String :=
  match error.found with
  | some c => Text.quoted (String.singleton c)
  | none => "end of input"

/-- The line and column in words. -/
def placeText (error : ReadError) : String :=
  "line " ++ Numeral.decimalText error.place.line ++
    ", column " ++ Numeral.decimalText error.place.column

/-- The wording of an error. -/
def message (error : ReadError) : String :=
  match error.fault with
  | .unexpected expected =>
    let wanted :=
      if expected.descriptions.isEmpty then ""
      else "; expecting " ++ alternatives expected.descriptions
    error.placeText ++ ": unexpected " ++ error.foundText ++ wanted
  | .tooDeep limit => error.placeText ++ ": nesting deeper than " ++ Numeral.decimalText limit

end ReadError

end SExpr
