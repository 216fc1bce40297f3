/-
This file is the program: it reads the arguments, writes what the execution says and exits.
-/

import ThriftCommand.Execution

/-- Runs the program with the registered backends. -/
def main (arguments : List String) : IO UInt32 := do
  let tokens := ("thriftgen" :: arguments).map ThriftCommand.Token.ofString
  let execution := ThriftCommand.Execution.ofArguments ThriftCommand.Backend.registered tokens
  (← IO.getStdout).putStr execution.stdout
  (← IO.getStderr).putStr execution.stderr
  return execution.code.toUInt32
