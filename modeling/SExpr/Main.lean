import SExpr.CommandLine

/-!
# The program

Prints what the command line comes to, and exits with its code.
-/

/-- Run the program with the arguments it was called with. -/
def main (args : List String) : IO UInt32 := do
  let run := SExpr.CommandLine.run args
  IO.print run.stdout
  IO.eprint run.stderr
  return run.exitCode.toUInt32
