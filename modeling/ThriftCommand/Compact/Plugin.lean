/-
This file says what a specification means when it names a plugin. Its name may carry the path of
the plugin's executable after an equals sign. An empty path is no path, but an empty name is
refused, and the error then repeats the specification as it is written back.
-/

import ThriftCommand.Compact.Spec

namespace ThriftCommand

/-- An external plugin to run. -/
structure Plugin where
  name : String
  path : Option String
  options : List SpecOption
  deriving DecidableEq, Repr

namespace Plugin

/-- The plugin that a specification names. -/
def ofSpec (spec : CompactSpec) : Except SpecError Plugin :=
  let (name, path) := Text.splitFirst '=' spec.name.toList
  if name = [] then .error (.missingName spec.render)
  else
    .ok { name := String.ofList name
          path := (path.filter fun chars => chars ≠ []).map String.ofList
          options := spec.options }

/-- The plugin that a text writes. -/
def parse (text : String) : Except SpecError Plugin :=
  match CompactSpec.parse text with
  | .error error => .error error
  | .ok spec => ofSpec spec

end Plugin

end ThriftCommand
