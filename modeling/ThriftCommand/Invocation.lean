/-
This file says what a command line asks for. A question for help comes before a question for the
version, and both are answered without a look at the operands; a wrong flag is an error even so.
-/

import ThriftCommand.Configuration
import ThriftCommand.Flag.Spelling

namespace ThriftCommand

/-- What a command line asks for. -/
inductive Invocation
  | run (configuration : Configuration)
  | version
  | help
  deriving DecidableEq, Repr

namespace Invocation

/-- What the flags and operands of a command line ask for. -/
def ofCommandLine (line : CommandLine) : Except UsageError Invocation :=
  if line.settings.help then .ok .help
  else if line.settings.version then .ok .version
  else (Configuration.ofCommandLine line).map .run

/-- What the arguments ask for, program name first. -/
def ofArguments (arguments : List Token) : Except UsageError Invocation :=
  match CommandLine.ofArguments (Spelling.canonicalArguments arguments) with
  | .error error => .error (.flags error)
  | .ok line => ofCommandLine line

end Invocation

end ThriftCommand
