/-
This file reports what a run would generate. Targets and plugins are resolved first, and a report
that fails there has logged nothing. Otherwise it informs of the interface file, the include
directories, the recursion, each target with its output directory and each plugin, and then warns
of a run without targets and of targets that no backend can honour.
-/

import ThriftCommand.Backend.Warning
import ThriftCommand.Configuration

namespace ThriftCommand

/-- How a report ended, and what it logged. -/
structure Report where
  outcome : Except UsageError Unit
  records : List Record

namespace Report

/-- The report of a specification that could not be resolved. -/
def refused (error : SpecError) : Report :=
  { outcome := .error (.spec error), records := [] }

/-- The words for a truth value. -/
def truth (value : Bool) : String :=
  if value then "true" else "false"

/-- The target with its output directory. -/
def targetLine (configuration : Configuration) (target : Target) : String :=
  "Target " ++ target.language ++ " -> " ++ configuration.outputFor target.language

/-- The plugin with its path, if it has one. -/
def pluginLine (plugin : Plugin) : String :=
  match plugin.path with
  | some path => "Plugin " ++ plugin.name ++ " (" ++ path ++ ")"
  | none => "Plugin " ++ plugin.name

/-- The informational messages about a run. -/
def plan (configuration : Configuration) (targets : List Target) (plugins : List Plugin) :
    List String :=
  [ "IDL: " ++ configuration.idl,
    "Include paths: " ++ configuration.includes.render,
    "Recursive: " ++ truth configuration.recurse ]
    ++ targets.map (targetLine configuration) ++ plugins.map pluginLine

/-- The warning about a run without targets. -/
def noTarget : String :=
  "No target language specified (use -g), nothing will be generated"

/-- The report of a run whose targets and plugins are these. -/
def ofResolved (configuration : Configuration) (backends : List Backend) (targets : List Target)
    (plugins : List Plugin) : Report :=
  let policy := configuration.logPolicy
  { outcome := .ok ()
    records :=
      (plan configuration targets plugins).flatMap policy.inform
        ++ (if targets.isEmpty then policy.caution noTarget else [])
        ++ policy.cautionAll ((Warning.ofTargets backends targets).map Warning.message) }

/-- The report of a run. -/
def ofConfiguration (configuration : Configuration) (backends : List Backend) : Report :=
  match configuration.resolveTargets with
  | .error error => refused error
  | .ok targets =>
    match configuration.resolvePlugins with
    | .error error => refused error
    | .ok plugins => ofResolved configuration backends targets plugins

/-- The records that a threshold lets through. -/
def passing (report : Report) (threshold : Option Level) : List Record :=
  report.records.filter fun record => record.level.passes threshold

end Report

end ThriftCommand
