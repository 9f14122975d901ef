import SExpr.Report

/-!
# The command line

The program takes one argument, a text, and prints whether it starts with an expression.  The
exit code tells the same: zero if it does, one if it does not, two if the arguments were not one
text.
-/

namespace SExpr

/-- What a run of the program leaves behind. -/
structure Run where
  stdout : String
  stderr : String
  exitCode : Nat
  deriving DecidableEq, Repr

namespace CommandLine

/-- How to call the program. -/
def usage : String := "Usage: python -m lispexpr <expression>"

/-- Run the program with some arguments. -/
def run : List String → Run
  | [source] =>
    let answer := (report source).answer
    { stdout := answer ++ "\n"
      stderr := ""
      exitCode := if answer = Report.foundAnswer then 0 else 1 }
  | _ =>
    { stdout := ""
      stderr := usage ++ "\n"
      exitCode := 2 }

end CommandLine

end SExpr
