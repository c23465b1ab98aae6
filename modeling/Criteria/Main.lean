import Criteria.CommandLine

/-!
# The command

Reads the arguments, writes the answer, and ends with its code.
-/

open Criteria in
def main (arguments : List String) : IO UInt32 := do
  let answer := CommandLine.answer (arguments.map String.toList)
  (← IO.getStderr).putStr (String.ofList answer.stderr)
  (← IO.getStdout).putStr (String.ofList answer.stdout)
  return answer.code.toUInt32
