/-
This file writes user text between double quotes, so that a message shows where the text begins
and ends and every character of it. The quote, the backslash and the usual controls have short
escapes; every other character that would not show is written by its number in hexadecimal.
Quoted text therefore stays on one line.
-/

import ThriftCommand.Text.Invisible

namespace ThriftCommand.Text

/-- A character by its number: a backslash, `u`, and the lower-case digits in braces. -/
def numbered (c : Char) : List Char :=
  ['\\', 'u', '\x7b'] ++ Nat.toDigits 16 c.toNat ++ ['\x7d']

/-- One character as quoted text shows it. -/
def escaped (c : Char) : List Char :=
  match c with
  | '"' => ['\\', '"']
  | '\\' => ['\\', '\\']
  | '\x00' => ['\\', '0']
  | '\t' => ['\\', 't']
  | '\r' => ['\\', 'r']
  | '\n' => ['\\', 'n']
  | c => if isInvisible c then numbered c else [c]

/-- The text between quotes. -/
def quoted (text : String) : String :=
  String.ofList ('"' :: text.toList.flatMap escaped ++ ['"'])

end ThriftCommand.Text
