/-
This file reads the flags in one token. A long token holds one flag, with a value after the first
equals sign. A token of letters holds a run of switches, and ends in a switch with a value, or in
a parameter, which takes the rest of the token as its value. A parameter at the very end of a
token awaits its value from the next one.
-/

import ThriftCommand.Flag.Error
import ThriftCommand.Flag.Setting
import ThriftCommand.Token.Glyph

namespace ThriftCommand

/-- What the flags of one token settle, and the parameter that still awaits its value. -/
structure Scan where
  settings : List Setting
  awaiting : Option Parameter := none
  deriving DecidableEq, Repr

namespace Scan

/-- The scan with one more setting before it. -/
def after (setting : Setting) (scan : Scan) : Scan :=
  { scan with settings := setting :: scan.settings }

/-! ### Values -/

/-- The setting of a switch by a word. -/
def switchTo (which : Switch) (word : Token) : Except FlagError Setting :=
  match word.text? with
  | none => .error .undecodable
  | some text =>
    match Switch.position? text with
    | none => .error (.notBoolean which text)
    | some position => .ok (.switch which position)

/-- The setting of a parameter by a value, which is any text. -/
def parameterTo (which : Parameter) (value : Token) : Except FlagError Setting :=
  match value.text? with
  | none => .error .undecodable
  | some text => .ok (.parameter which text)

/-- The scan of a token that ends in this setting. -/
def ending (setting : Except FlagError Setting) : Except FlagError Scan :=
  setting.map fun settled => { settings := [settled] }

/-! ### Flags -/

/-- The flag that a long token names, with what stands before the equals sign as its name. -/
def longFlag (name : Token) : Except FlagError Flag :=
  match name.chars?.bind Flag.named? with
  | none => .error (.unknown (String.ofList ('-' :: '-' :: name.shown)))
  | some flag => .ok flag

/-- The flag that a letter names. Stray bytes name none, and are shown with all that follows. -/
def letterFlag (letter : Glyph) (rest : Token) : Except FlagError Flag :=
  match letter with
  | .stray _ => .error (.unknown (String.ofList ('-' :: Token.shown (letter :: rest))))
  | .char c =>
    match Flag.lettered? c with
    | none => .error (.unknown (String.ofList ['-', c]))
    | some flag => .ok flag

/-- The scan of what follows two dashes. -/
def ofLong (body : Token) : Except FlagError Scan :=
  let (name, value) := Text.splitFirst (.char '=') body
  match longFlag name, value with
  | .error error, _ => .error error
  | .ok (.switch which), none => .ok { settings := [.switch which true] }
  | .ok (.switch which), some word => ending (switchTo which word)
  | .ok (.parameter which), none => .ok { settings := [], awaiting := some which }
  | .ok (.parameter which), some text => ending (parameterTo which text)

/-- The scan of what follows one dash. -/
def ofLetters : Token → Except FlagError Scan
  | [] => .ok { settings := [] }
  | letter :: rest =>
    match letterFlag letter rest, rest with
    | .error error, _ => .error error
    | .ok (.switch which), .char '=' :: word => ending (switchTo which word)
    | .ok (.switch which), rest => (ofLetters rest).map (after (.switch which true))
    | .ok (.parameter which), [] => .ok { settings := [], awaiting := some which }
    | .ok (.parameter which), .char '=' :: text => ending (parameterTo which text)
    | .ok (.parameter which), text => ending (parameterTo which text)

/-- The scan of a token; one that holds no flag settles nothing. -/
def ofToken (token : Token) : Except FlagError Scan :=
  match token.shape with
  | .long body => ofLong body
  | .letters body => ofLetters body
  | .operand | .terminator => .ok { settings := [] }

/-- The error in place of a flag, if there is one. -/
def failure? : Except FlagError Flag → Option FlagError
  | .error error => some error
  | .ok _ => none

/-- What is wrong with the very first flag of a token, as far as its name goes. -/
def leadError? (token : Token) : Option FlagError :=
  match token.shape with
  | .long body => failure? (longFlag (Text.splitFirst (.char '=') body).1)
  | .letters (letter :: rest) => failure? (letterFlag letter rest)
  | _ => none

end Scan

end ThriftCommand
