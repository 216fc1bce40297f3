/-
This file says what can be wrong with a flag, and how a message says it. A message repeats user
text as a terminal would show it, is cut at its first line feed and loses the blanks at its end, so
it stays on one line whatever the user wrote.
-/

import ThriftCommand.Flag.Basic
import ThriftCommand.Text.Blank
import ThriftCommand.Text.ControlSequence
import ThriftCommand.Text.Quoted
import ThriftCommand.Text.Split

namespace ThriftCommand

/-- Why a token cannot be read as a flag. -/
inductive FlagError
  /-- No flag is written this way. -/
  | unknown (flag : String)
  /-- The parameter stands without the value that it needs. -/
  | missingValue (parameter : Parameter)
  /-- The switch is given a word that stands for no position. -/
  | notBoolean (switch : Switch) (word : String)
  /-- A value or an operand does not decode to text. -/
  | undecodable
  deriving DecidableEq, Repr

namespace FlagError

/-- User text as a message shows it. -/
def visible (text : String) : String :=
  String.ofList (Text.stripControls .ends text.toList)

/-- The complaint in full, however many lines it takes. -/
def complaint : FlagError → String
  | unknown flag => "error: unexpected argument '" ++ visible flag ++ "' found"
  | missingValue parameter =>
    "error: a value is required for '" ++ parameter.display ++ "' but none was supplied"
  | notBoolean switch word =>
    "error: invalid value '" ++ visible word ++ "' for '" ++ switch.display
      ++ "': invalid boolean value " ++ Text.quoted word
  | undecodable => "error: invalid UTF-8 was detected in one or more arguments"

/-- The line that the user sees. -/
def message (error : FlagError) : String :=
  String.ofList (Text.trimEnd (Text.firstLine error.complaint.toList))

end FlagError

end ThriftCommand
