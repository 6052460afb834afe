import Descent.Calculator

/-!
# The command line

Runs the calculator on the arguments.
-/

/-- Evaluates the arguments as one expression, or shows examples when there are none. -/
def main (args : List String) : IO UInt32 := do
  -- None of the calculator's rules ever moves back, so that its repetitions need no patience.
  match Descent.Calculator.commandLine { depth := 10000, patience := 0 } args with
  | .ok report =>
    (← IO.getStdout).putStr report.out
    (← IO.getStderr).putStr report.err
    return report.exitCode.toUInt32
  | .error fault =>
    (← IO.getStderr).putStrLn fault.message
    return 1
