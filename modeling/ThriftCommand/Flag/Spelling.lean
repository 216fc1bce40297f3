/-
This file allows a long flag to be written with a single dash. Before flags are read, every such
token gets its second dash. Only tokens at a place for flags are looked at: the value that follows
a parameter is passed over, and everything stays as it is from the first operand on, or from two
dashes alone. A token that does not decode is passed over too.
-/

import ThriftCommand.Flag.Basic
import ThriftCommand.Text.Split
import ThriftCommand.Token.Glyph

namespace ThriftCommand.Spelling

/-- The characters name a long flag, alone or with a value after the equals sign. -/
def namesLong (chars : List Char) : Bool :=
  (Flag.named? (Text.splitFirst '=' chars).1).isSome

/-- The characters are a long flag behind a single dash. -/
def isSingleDash : List Char → Bool
  | '-' :: body => namesLong body
  | _ => false

/-- The token with two dashes where a long flag is written with one. -/
def canonical (token : Token) : Token :=
  match token.chars? with
  | none => token
  | some chars => if isSingleDash chars then .char '-' :: token else token

/-! ### Values in the next token -/

/-- The letter is that of a parameter. -/
def isParameterLetter (letter : Char) : Bool :=
  Parameter.all.any fun which => which.letter = letter

/-- The first parameter among the letters is the last of them. -/
def endsAtParameter : List Char → Bool
  | [] => false
  | letter :: rest => if isParameterLetter letter then rest.isEmpty else endsAtParameter rest

/-- The next token is the value of these flags. -/
def takesNext : List Char → Bool
  | '-' :: '-' :: name => Parameter.all.any fun which => which.name.toList = name
  | '-' :: letters => endsAtParameter letters
  | _ => false

/-- The token, spelled with two dashes, takes the next one as a value. -/
def awaitsValue (token : Token) : Bool :=
  match (canonical token).chars? with
  | none => false
  | some chars => takesNext chars

/-- The token ends the places for flags. A token that does not decode never does. -/
def stops (token : Token) : Bool :=
  token.chars?.isSome && (token.shape = .operand || token.shape = .terminator)

/-! ### A command line by its places -/

/-- A token at a place for flags, with the value that it takes from the next token. -/
structure Place where
  token : Token
  value : Option Token := none
  deriving DecidableEq, Repr

/-- The places for flags, and the tokens from the one on that ends them. -/
structure Layout where
  places : List Place
  rest : List Token
  deriving DecidableEq, Repr

/-- The layout with one more place before it. -/
def Layout.after (place : Place) (layout : Layout) : Layout :=
  { layout with places := place :: layout.places }

/-- The layout of the tokens after the program's name. -/
def Layout.ofTokens : List Token → Layout
  | [] => { places := [], rest := [] }
  | token :: rest =>
    if stops token then { places := [], rest := token :: rest }
    else if awaitsValue token then
      match rest with
      | [] => { places := [{ token }], rest := [] }
      | value :: later => (Layout.ofTokens later).after { token, value := some value }
    else (Layout.ofTokens rest).after { token }

/-- The tokens with every flag spelled with two dashes. -/
def Layout.canonical (layout : Layout) : List Token :=
  layout.places.flatMap (fun place => Spelling.canonical place.token :: place.value.toList)
    ++ layout.rest

/-- The arguments, program name first, with every long flag spelled with two dashes. -/
def canonicalArguments : List Token → List Token
  | [] => []
  | program :: tokens => program :: (Layout.ofTokens tokens).canonical

end ThriftCommand.Spelling
