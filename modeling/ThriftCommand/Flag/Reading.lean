/-
This file reads a whole command line. Flags come first; they end at two dashes alone, which are
dropped, or at the first token that is no flag, which is kept. Every token from there on is an
operand, whatever it looks like. A parameter at the end of a token takes the next one as its
value, unless that token looks like a flag. Errors are found from left to right, with one
exception: a value that is missing, or does not decode, is noticed only where the next flag begins,
so a token that names no flag is complained of first.
-/

import ThriftCommand.Flag.Scan

namespace ThriftCommand

/-- One token of flags, with the separate token that it took as a value. -/
structure OptionUnit where
  token : Token
  separate : Option Token := none
  settings : List Setting
  deriving DecidableEq, Repr

/-- A command line that has been read. -/
structure Reading where
  units : List OptionUnit
  operands : List String
  deriving DecidableEq, Repr

namespace Reading

/-- The reading with one more unit before it. -/
def after (unit : OptionUnit) (reading : Reading) : Reading :=
  { reading with units := unit :: reading.units }

/-- The reading of tokens that are all operands. -/
def ofOperands (tokens : List Token) : Except FlagError Reading :=
  match tokens.mapM Token.text? with
  | none => .error .undecodable
  | some operands => .ok { units := [], operands }

/-- The error that is noticed before the flag of `token`: its own when it names no flag. -/
def noticedAt (token : Option Token) (error : FlagError) : FlagError :=
  (token.bind Scan.leadError?).getD error

/-- The reading of the tokens after the program's name. -/
def ofTokens : List Token → Except FlagError Reading
  | [] => .ok { units := [], operands := [] }
  | token :: rest =>
    match token.shape with
    | .operand => ofOperands (token :: rest)
    | .terminator => ofOperands rest
    | .long _ | .letters _ =>
      match Scan.ofToken token with
      | .error error => .error error
      | .ok ⟨settings, none⟩ => (ofTokens rest).map (after { token, settings })
      | .ok ⟨settings, some which⟩ =>
        match rest with
        | [] => .error (.missingValue which)
        | value :: later =>
          if value.shape = .operand then
            match value.text? with
            | none => .error (noticedAt later.head? .undecodable)
            | some text =>
              (ofTokens later).map (after
                { token, separate := some value,
                  settings := settings ++ [.parameter which text] })
          else .error (noticedAt (some value) (.missingValue which))

/-- All settings of a reading, in the order in which they were written. -/
def settings (reading : Reading) : List Setting :=
  reading.units.flatMap OptionUnit.settings

end Reading

/-- What a command line settles, and its operands. -/
structure CommandLine where
  settings : Settings
  operands : List String
  deriving DecidableEq, Repr

/-- Reads the arguments; the first one is the program's own name and is not looked at. -/
def CommandLine.ofArguments (arguments : List Token) : Except FlagError CommandLine :=
  (Reading.ofTokens arguments.tail).map fun reading =>
    { settings := Settings.ofList reading.settings, operands := reading.operands }

end ThriftCommand
