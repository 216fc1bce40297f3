/-
This file holds the options of a compact specification. An option is a key alone, or a key and a
value with an equals sign between them; an empty value is not the same as none. The value of a key
is that of the first option with this key, which is the only one in a specification that was read.
-/

import ThriftCommand.Compact.Error
import ThriftCommand.Text.Split

namespace ThriftCommand

/-- A key with an optional value. -/
structure SpecOption where
  key : String
  value : Option String
  deriving DecidableEq, Repr

/-- What a list of options says about a key. -/
inductive Given
  /-- No option has the key. -/
  | absent
  /-- The key stands without a value. -/
  | bare
  /-- The key has this value, which may be empty. -/
  | valued (text : String)
  deriving DecidableEq, Repr

namespace SpecOption

/-- The option as it is written. -/
def render (option : SpecOption) : String :=
  match option.value with
  | none => option.key
  | some value => option.key ++ "=" ++ value

/-- The option that an item writes: the first equals sign parts the key from the value. -/
def ofItem (item : List Char) : SpecOption :=
  let (key, value) := Text.splitFirst '=' item
  { key := String.ofList key, value := value.map String.ofList }

/-- What the first option with this key says. -/
def given (options : List SpecOption) (key : String) : Given :=
  match options.find? fun option => option.key = key with
  | none => .absent
  | some ⟨_, none⟩ => .bare
  | some ⟨_, some text⟩ => .valued text

/-- The key read as a boolean. An absent key is off; a key without a value, or with an empty one,
is on. -/
def isOn (options : List SpecOption) (key : String) : Except SpecError Bool :=
  match given options key with
  | .absent => .ok false
  | .bare => .ok true
  | .valued text =>
    if text = "" ∨ text = "true" then .ok true
    else if text = "false" then .ok false
    else .error (.notBoolean key text)

end SpecOption

end ThriftCommand
