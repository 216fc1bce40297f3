/-
This file describes backends. A backend generates code in one language; here it only tells its
name, the language and the options that it accepts, which is what the help text and the checks on
requested targets need.
-/

namespace ThriftCommand

/-- An option that a backend documents. -/
structure OptionDoc where
  name : String
  description : String
  /-- The option is on or off: its value is true, false or left out. -/
  boolean : Bool := false
  deriving DecidableEq, Repr

/-- A code generator, as far as the command line knows it. -/
structure Backend where
  name : String
  language : String
  /-- The options in the order in which the help text lists them. -/
  options : List OptionDoc
  deriving DecidableEq, Repr

/-- The first backend for a language. -/
def Backend.find? (backends : List Backend) (language : String) : Option Backend :=
  List.find? (fun backend => backend.language = language) backends

/-- What the backend documents about an option; the first entry of that name counts. -/
def Backend.doc? (backend : Backend) (key : String) : Option OptionDoc :=
  backend.options.find? fun doc => doc.name = key

end ThriftCommand
