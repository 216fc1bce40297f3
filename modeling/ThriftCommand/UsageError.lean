/-
This file gathers the ways in which a command line can be wrong. All of them end the program with
one exit status; only a wrong flag is answered with the help text as well.
-/

import ThriftCommand.Compact.Error
import ThriftCommand.Flag.Error

namespace ThriftCommand

/-- Why a command line is refused. -/
inductive UsageError
  /-- A flag is wrong. -/
  | flags (error : FlagError)
  /-- There is not exactly one operand. -/
  | argumentCount (count : Nat)
  /-- The operand is empty. -/
  | emptyIdl
  /-- A specification is wrong. -/
  | spec (error : SpecError)
  deriving DecidableEq, Repr

namespace UsageError

/-- The line that the user sees. -/
def message : UsageError → String
  | flags error => error.message
  | argumentCount count =>
    "require exactly 1 argument for the IDL parameter, got: " ++ count.repr
  | emptyIdl => "the IDL parameter must not be empty"
  | spec error => error.message

/-- The help text follows the message. -/
def showsHelp : UsageError → Bool
  | flags _ => true
  | _ => false

/-- The exit status of every refused command line, and of the help text. -/
def exitCode : UInt8 :=
  2

end UsageError

end ThriftCommand
