/-
This file holds the configuration of a run: what the flags settled, and the one interface file to
compile. Exactly one operand is required and it must not be empty; an empty output directory is
the same as none. Targets and plugins stay as they were written until they are resolved, and
resolving stops at the first specification that is wrong.
-/

import ThriftCommand.Compact.Plugin
import ThriftCommand.Compact.Target
import ThriftCommand.Flag.Reading
import ThriftCommand.Log
import ThriftCommand.Occurrences
import ThriftCommand.UsageError

namespace ThriftCommand

/-- A command line that asks for a run. -/
structure Configuration where
  askVersion : Bool
  recurse : Bool
  verbose : Bool
  quiet : Bool
  output : Option String
  includes : Occurrences
  plugins : Occurrences
  targets : Occurrences
  idl : String
  deriving DecidableEq, Repr

namespace Configuration

/-- The configuration with what the flags settled, for this interface file. -/
def ofSettings (settings : Settings) (idl : String) : Configuration where
  askVersion := settings.version
  recurse := settings.recurse
  verbose := settings.verbose
  quiet := settings.quiet
  output := settings.output.filter fun directory => directory ≠ ""
  includes := Occurrences.ofList settings.includes
  plugins := Occurrences.ofList settings.plugins
  targets := Occurrences.ofList settings.targets
  idl := idl

/-- The configuration of a command line with exactly one operand. -/
def ofCommandLine (line : CommandLine) : Except UsageError Configuration :=
  match line.operands with
  | [idl] => if idl = "" then .error .emptyIdl else .ok (ofSettings line.settings idl)
  | operands => .error (.argumentCount operands.length)

/-- The output directory of a language: the one asked for, or else one named for the language. -/
def outputFor (configuration : Configuration) (language : String) : String :=
  configuration.output.getD ("./gen-" ++ language)

/-- The targets, in the order of the command line. -/
def resolveTargets (configuration : Configuration) : Except SpecError (List Target) :=
  configuration.targets.toList.mapM Target.parse

/-- The plugins, in the order of the command line. -/
def resolvePlugins (configuration : Configuration) : Except SpecError (List Plugin) :=
  configuration.plugins.toList.mapM Plugin.parse

/-- What the run logs. -/
def logPolicy (configuration : Configuration) : LogPolicy :=
  LogPolicy.ofSwitches configuration.verbose configuration.quiet

end Configuration

end ThriftCommand
