import SExpr.Entry

/-!
# One line about a text

Whoever only wants to know whether a text starts with an expression gets one line of an answer,
and a log gets one line about what was read or why nothing was.
-/

namespace SExpr

/-- The name of the kind of a datum, as it stands in a log. -/
def Datum.kindName : Datum → String
  | .atom _ => "Atom"
  | .list _ => "List"
  | .dotted _ _ => "DottedPair"
  | .integer _ => "Integer"
  | .text _ => "Text"
  | .boolean _ => "Boolean"
  | .character _ => "Character"
  | .float _ => "Float"
  | .ratio _ => "Ratio"
  | .complex _ _ => "Complex"

/-- The answer about a text and the lines of the log. -/
structure Report where
  answer : String
  log : List String
  deriving DecidableEq, Repr

namespace Report

/-- The answer about a text that starts with an expression. -/
def foundAnswer : String := "Found value"

/-- The answer about a text that does not, up to the reason. -/
def missingAnswer : String := "No match: "

/-- The report about a text, from what reading it came to. -/
def ofReading (source : String) : Except ReadError (Datum × Nat) → Report
  | .ok (datum, length) =>
    { answer := foundAnswer
      log := ["DEBUG read " ++ datum.kindName ++ " from " ++ Numeral.decimalText length ++
        " of " ++ Numeral.decimalText source.length ++ " characters"] }
  | .error error =>
    { answer := missingAnswer ++ error.message
      log := ["DEBUG no match for " ++ Text.quoted source ++ ": " ++ error.message] }

end Report

/-- Tell whether a text starts with an expression. -/
def report (source : String) (options : Options := {}) : Report :=
  Report.ofReading source (Entry.expression.read options source)

end SExpr
