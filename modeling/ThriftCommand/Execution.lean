/-
This file says what an execution of the program writes and how it exits. The version goes to the
standard output; help, errors and the log go to the standard error. A log line is written as a
terminal would show it: control sequences in user text do not reach the terminal.
-/

import ThriftCommand.Backend.Go
import ThriftCommand.Help
import ThriftCommand.Invocation
import ThriftCommand.Report

namespace ThriftCommand

/-- The exit status and the text of both outputs. -/
structure Execution where
  code : UInt8
  stdout : String := ""
  stderr : String := ""
  deriving DecidableEq, Repr

namespace Execution

/-- The refusal of a command line: the message, and the help text after a wrong flag. -/
def refusal (backends : List Backend) (error : UsageError) : Execution where
  code := UsageError.exitCode
  stderr :=
    Help.line (String.ofList (Text.trimEnd error.message.toList))
      ++ (if error.showsHelp then Help.render backends else "")

/-- A record as the log writes it. -/
def written (record : Record) : String :=
  String.ofList (Text.stripControls .suspends (Help.line record.line).toList)

/-- The execution of a run. -/
def ofConfiguration (backends : List Backend) (configuration : Configuration) : Execution :=
  let report := Report.ofConfiguration configuration backends
  match report.outcome with
  | .error error => refusal backends error
  | .ok () =>
    { code := 0
      stderr := String.join ((report.passing configuration.logPolicy.threshold).map written) }

/-- The execution with these backends and these arguments, program name first. -/
def ofArguments (backends : List Backend) (arguments : List Token) : Execution :=
  match Invocation.ofArguments arguments with
  | .error error => refusal backends error
  | .ok .version => { code := 0, stdout := Help.line Help.versionLine }
  | .ok .help => { code := UsageError.exitCode, stderr := Help.render backends }
  | .ok (.run configuration) => ofConfiguration backends configuration

end Execution

end ThriftCommand
