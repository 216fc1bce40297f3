/-
This file says what flags settle. Each occurrence of a flag is one setting; settings apply from
left to right to the settled values. A switch and the output directory keep what came last, while
include directories, targets and plugins gather, in order and with repetitions: their order is the
order of search and of generation.
-/

import ThriftCommand.Flag.Basic

namespace ThriftCommand

/-- One occurrence of a flag, with its value. -/
inductive Setting
  | switch (which : Switch) (position : Bool)
  | parameter (which : Parameter) (value : String)
  deriving DecidableEq, Repr

/-- What the flags settle. -/
structure Settings where
  version : Bool := false
  help : Bool := false
  recurse : Bool := false
  verbose : Bool := false
  quiet : Bool := false
  output : Option String := none
  includes : List String := []
  targets : List String := []
  plugins : List String := []
  deriving DecidableEq, Repr

/-- The values after one more setting. -/
def Settings.apply (settings : Settings) : Setting → Settings
  | .switch .version position => { settings with version := position }
  | .switch .help position => { settings with help := position }
  | .switch .recurse position => { settings with recurse := position }
  | .switch .verbose position => { settings with verbose := position }
  | .switch .quiet position => { settings with quiet := position }
  | .parameter .output value => { settings with output := some value }
  | .parameter .includeDir value => { settings with includes := settings.includes ++ [value] }
  | .parameter .target value => { settings with targets := settings.targets ++ [value] }
  | .parameter .plugin value => { settings with plugins := settings.plugins ++ [value] }

/-- The values after all of `occurrences`, from the state in which nothing is settled. -/
def Settings.ofList (occurrences : List Setting) : Settings :=
  occurrences.foldl Settings.apply {}

end ThriftCommand
