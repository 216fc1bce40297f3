/-
This file says what is logged and what is not. A policy follows from two switches: quiet silences
everything, and verbose only lets informational messages through. A message that is let through
becomes a record, and a record is written as one tagged line.
-/

namespace ThriftCommand

/-- How grave a message is. -/
inductive Level
  | error
  | warn
  | info
  | debug
  | trace
  deriving DecidableEq, Repr

/-- What stands before a message of this level. -/
def Level.tag : Level → String
  | .error => "[ERROR] "
  | .warn => "[WARN] "
  | .info => "[INFO] "
  | .debug => "[DEBUG] "
  | .trace => "[TRACE] "

/-- The place of a level, from the gravest on. -/
def Level.rank : Level → Nat
  | .error => 1
  | .warn => 2
  | .info => 3
  | .debug => 4
  | .trace => 5

/-- A threshold lets through what is at least as grave; without one nothing passes. -/
def Level.passes (threshold : Option Level) (level : Level) : Bool :=
  match threshold with
  | none => false
  | some least => level.rank ≤ least.rank

/-- A message that was let through. -/
structure Record where
  level : Level
  message : String
  deriving DecidableEq, Repr

/-- The tag and the message. -/
def Record.line (record : Record) : String :=
  record.level.tag ++ record.message

/-- Which messages are let through. -/
structure LogPolicy where
  info : Bool
  warn : Bool
  deriving DecidableEq, Repr

namespace LogPolicy

/-- The policy that the two switches ask for. -/
def ofSwitches (verbose quiet : Bool) : LogPolicy :=
  { info := verbose && !quiet, warn := !quiet }

/-- The least grave level that the policy lets through. -/
def threshold (policy : LogPolicy) : Option Level :=
  if policy.info then some .info
  else if policy.warn then some .warn
  else none

/-- An informational message. -/
def inform (policy : LogPolicy) (message : String) : List Record :=
  if policy.info then [{ level := .info, message }] else []

/-- A warning. -/
def caution (policy : LogPolicy) (message : String) : List Record :=
  if policy.warn then [{ level := .warn, message }] else []

/-- The messages of a sequence that are asked for: all of them, or none under silence. -/
def demanded (policy : LogPolicy) (messages : List String) : List String :=
  if policy.warn then messages else []

/-- A sequence of warnings, each a record of its own. -/
def cautionAll (policy : LogPolicy) (messages : List String) : List Record :=
  (policy.demanded messages).map fun message => { level := .warn, message }

end LogPolicy

end ThriftCommand
