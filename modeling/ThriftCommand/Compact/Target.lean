/-
This file says what a specification means when it names a target: its name is the language to
generate code in, and its options are for that language's backend.
-/

import ThriftCommand.Compact.Spec

namespace ThriftCommand

/-- A language to generate code in. -/
structure Target where
  language : String
  options : List SpecOption
  deriving DecidableEq, Repr

namespace Target

/-- The target that a specification names. -/
def ofSpec (spec : CompactSpec) : Target :=
  { language := spec.name, options := spec.options }

/-- The target that a text writes. -/
def parse (text : String) : Except SpecError Target :=
  (CompactSpec.parse text).map ofSpec

/-- A target is that of the specification which the same text writes. -/
theorem parse_eq_ok_iff {text : String} {target : Target} :
    parse text = .ok target ↔ ∃ spec, CompactSpec.parse text = .ok spec ∧ ofSpec spec = target := by
  unfold parse
  cases CompactSpec.parse text <;> simp [Except.map]

/-- A text that names no target is refused for what is wrong with its specification. -/
theorem parse_eq_error_iff {text : String} {error : SpecError} :
    parse text = .error error ↔ CompactSpec.parse text = .error error := by
  unfold parse
  cases CompactSpec.parse text <;> simp [Except.map]

/-- What the target's options say about a key. -/
def given (target : Target) (key : String) : Given :=
  SpecOption.given target.options key

/-- The key read as a boolean. -/
def isOn (target : Target) (key : String) : Except SpecError Bool :=
  SpecOption.isOn target.options key

end Target

end ThriftCommand
