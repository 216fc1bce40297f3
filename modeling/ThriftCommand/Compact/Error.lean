/-
This file says what can be wrong with a compact specification, and how a message says it. Every
text that a message repeats stands in quotes and with escapes, so the message is one line and
shows where each text begins and ends.
-/

import ThriftCommand.Text.Quoted

namespace ThriftCommand

/-- Why a specification, or a boolean option of it, is refused. -/
inductive SpecError
  /-- The specification does not begin with a name. -/
  | missingName (spec : String)
  /-- An option has no key. -/
  | emptyKey (spec : String)
  /-- Two options have one key. -/
  | duplicateKey (spec : String) (key : String)
  /-- An option that is on or off has a value that is neither. -/
  | notBoolean (key : String) (value : String)
  deriving DecidableEq, Repr

/-- The line that the user sees. -/
def SpecError.message : SpecError → String
  | missingName spec =>
    "invalid compact specification " ++ Text.quoted spec ++ ": missing name"
  | emptyKey spec =>
    "invalid compact specification " ++ Text.quoted spec ++ ": empty option key"
  | duplicateKey spec key =>
    "invalid compact specification " ++ Text.quoted spec ++ ": option " ++ Text.quoted key
      ++ " given more than once"
  | notBoolean key value =>
    "invalid value " ++ Text.quoted value ++ " for boolean option " ++ Text.quoted key
      ++ ": expected true, false or empty"

end ThriftCommand
