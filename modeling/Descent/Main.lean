import Descent.NumberList

/-! The program around the command line. -/

/-- Write both texts of the report and leave with its exit code. -/
def main (arguments : List String) : IO UInt32 := do
  let report := Descent.Command.run arguments
  IO.print report.output
  IO.eprint report.diagnostics
  return report.exitCode
