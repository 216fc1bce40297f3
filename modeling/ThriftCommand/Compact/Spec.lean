/-
This file reads and writes compact specifications, which pack a name and its options into one
token: the name, then a colon, then the options with commas between them. There is no escaping. The
name ends at the first colon and must not be empty; nothing after the colon means no options. Every
option needs a key, and no two options may share one: the leftmost option that breaks a rule is
the one that is complained of.
-/

import ThriftCommand.Compact.Option

namespace ThriftCommand

/-- A name with options, in the order in which they were written. -/
structure CompactSpec where
  name : String
  options : List SpecOption
  deriving DecidableEq, Repr

namespace CompactSpec

/-! ### Reading -/

/-- What is wrong with a list of keys. -/
inductive KeyFault
  | empty
  | repeated (key : String)
  deriving DecidableEq, Repr

/-- The fault of the leftmost key that is empty, or is among those `seen` before it. -/
def keyFault? (seen : List String) : List String → Option KeyFault
  | [] => none
  | key :: rest =>
    if key = "" then some .empty
    else if key ∈ seen then some (.repeated key)
    else keyFault? (key :: seen) rest

/-- The options that are written after the colon. -/
def optionsOf (text : List Char) : List SpecOption :=
  match text with
  | [] => []
  | items => (items.splitOn ',').map SpecOption.ofItem

/-- The specification that `spec` writes. -/
def parse (spec : String) : Except SpecError CompactSpec :=
  let (name, rest) := Text.splitFirst ':' spec.toList
  if name = [] then .error (.missingName spec)
  else
    let options := optionsOf (rest.getD [])
    match keyFault? [] (options.map SpecOption.key) with
    | some .empty => .error (.emptyKey spec)
    | some (.repeated key) => .error (.duplicateKey spec key)
    | none => .ok { name := String.ofList name, options }

/-! ### Writing -/

/-- The text of a specification, which holds the colon only if there are options. -/
def render (spec : CompactSpec) : String :=
  match spec.options with
  | [] => spec.name
  | options => spec.name ++ ":" ++ ",".intercalate (options.map SpecOption.render)

/-! ### Options -/

/-- What the specification says about a key. -/
def given (spec : CompactSpec) (key : String) : Given :=
  SpecOption.given spec.options key

/-- The key read as a boolean. -/
def isOn (spec : CompactSpec) (key : String) : Except SpecError Bool :=
  SpecOption.isOn spec.options key

end CompactSpec

end ThriftCommand
