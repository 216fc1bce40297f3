/-
This file checks requested targets against the backends. Nothing here stops a run: a language that
no backend generates, an option that the backend does not document, and a boolean option with
another value each give one warning, in the order in which they were written.
-/

import ThriftCommand.Backend.Basic
import ThriftCommand.Compact.Target

namespace ThriftCommand

/-- Why a target cannot be honoured as it was requested. -/
inductive Warning
  /-- No backend generates the language. -/
  | unknownLanguage (language : String)
  /-- The backend documents no option with this key. -/
  | unknownOption (key : String) (backend : String)
  /-- A boolean option has another value. -/
  | badValue (error : SpecError)
  deriving DecidableEq, Repr

namespace Warning

/-- The line that the user sees. -/
def message : Warning → String
  | unknownLanguage language => "No backend registered for language " ++ Text.quoted language
  | unknownOption key backend =>
    "Option " ++ Text.quoted key ++ " is not recognized by backend " ++ backend
  | badValue error => error.message

/-- The warning about one option of a target, if there is cause for one. -/
def ofOption? (backend : Backend) (target : Target) (option : SpecOption) : Option Warning :=
  match backend.doc? option.key with
  | none => some (.unknownOption option.key backend.name)
  | some doc =>
    if doc.boolean then
      match target.isOn option.key with
      | .error error => some (.badValue error)
      | .ok _ => none
    else none

/-- The warnings about one target. -/
def ofTarget (backends : List Backend) (target : Target) : List Warning :=
  match Backend.find? backends target.language with
  | none => [.unknownLanguage target.language]
  | some backend => target.options.filterMap (ofOption? backend target)

/-- The warnings about all targets. -/
def ofTargets (backends : List Backend) (targets : List Target) : List Warning :=
  targets.flatMap (ofTarget backends)

end Warning

end ThriftCommand
