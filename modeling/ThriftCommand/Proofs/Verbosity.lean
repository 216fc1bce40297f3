/-
This file proves that the report of a run is all or nothing, and that the two switches for its
verbosity only select from it. If a target or a plugin does not resolve, the report is that error
and nothing was logged. Otherwise there is one transcript of everything there is to say, and what
the switches leave of it is a selection by level alone.

A policy speaks in three places: in the two channels that write, and in the threshold that is put
on top of them. The content here is that the three agree, so the threshold takes nothing away.
-/

import ThriftCommand.Proofs.Resolution
import ThriftCommand.Report

namespace ThriftCommand

/-! ### What a policy admits -/

namespace LogPolicy

/-- A channel of the policy writes records of this level. -/
def admits (policy : LogPolicy) : Level → Bool
  | .info => policy.info
  | .warn => policy.warn
  | _ => false

theorem flatMap_inform (policy : LogPolicy) (messages : List String) :
    messages.flatMap policy.inform =
      (messages.map (Record.mk .info)).filter fun record => policy.admits record.level := by
  induction messages with
  | nil => rfl
  | cons message rest inductionHypothesis =>
    rw [List.flatMap_cons, inductionHypothesis, List.map_cons, List.filter_cons, inform, admits]
    cases policy.info <;> rfl

theorem caution_eq_cautionAll (policy : LogPolicy) (message : String) :
    policy.caution message = policy.cautionAll [message] := by
  unfold caution cautionAll demanded
  cases policy.warn <;> rfl

theorem cautionAll_eq_filter (policy : LogPolicy) (messages : List String) :
    policy.cautionAll messages =
      (messages.map (Record.mk .warn)).filter fun record => policy.admits record.level := by
  unfold cautionAll demanded
  rw [List.filter_map]
  cases silent : policy.warn with
  | true => simp [Function.comp_def, admits, silent]
  | false => simp [Function.comp_def, admits, silent]

/-- The threshold of a policy lets through whatever its channels write. -/
theorem passes_of_admits {policy : LogPolicy} {level : Level}
    (admitted : policy.admits level = true) : level.passes policy.threshold = true := by
  obtain ⟨info, warn⟩ := policy
  cases level <;> cases info <;> cases warn <;> first | rfl | cases admitted

/-- The two switches leave all of a text, its warnings or nothing. -/
theorem filter_admits_ofSwitches (verbose quiet : Bool) {records : List Record}
    (levels : ∀ record ∈ records, record.level = .info ∨ record.level = .warn) :
    (records.filter fun record => (ofSwitches verbose quiet).admits record.level) =
      if quiet then []
      else if verbose then records
      else records.filter fun record => record.level = .warn := by
  cases quiet with
  | true =>
    rw [if_pos rfl, List.filter_eq_nil_iff]
    intro record member
    rcases levels record member with level | level <;> simp [level, admits, ofSwitches]
  | false =>
    cases verbose with
    | true =>
      rw [if_neg Bool.false_ne_true, if_pos rfl, List.filter_eq_self]
      intro record member
      rcases levels record member with level | level <;> rw [level] <;> rfl
    | false =>
      rw [if_neg Bool.false_ne_true, if_neg Bool.false_ne_true]
      refine List.filter_congr fun record member => ?_
      rcases levels record member with level | level <;> rw [level] <;> rfl

end LogPolicy

namespace Report

/-! ### The transcript -/

/-- Everything there is to say about a run whose entries resolve to these: first the informational
messages, one for each entry, and then the warnings. -/
def transcript (configuration : Configuration) (backends : List Backend) (targets : List Target)
    (plugins : List Plugin) : List Record :=
  ([ "IDL: " ++ configuration.idl,
      "Include paths: " ++ ("[" ++ " ".intercalate configuration.includes.toList ++ "]"),
      "Recursive: " ++ (if configuration.recurse then "true" else "false") ]
    ++ targets.map (fun target : Target =>
      "Target " ++ target.language ++ " -> " ++ configuration.outputFor target.language)
    ++ plugins.map (fun plugin : Plugin =>
      match plugin.path with
      | some path => "Plugin " ++ plugin.name ++ " (" ++ path ++ ")"
      | none => "Plugin " ++ plugin.name)).map (Record.mk .info)
  ++ ((if configuration.targets.toList = [] then
        ["No target language specified (use -g), nothing will be generated"]
      else [])
    ++ (Warning.ofTargets backends targets).map Warning.message).map (Record.mk .warn)

/-- The transcript informs of the plan of the run. -/
theorem transcript_eq (configuration : Configuration) (backends : List Backend)
    (targets : List Target) (plugins : List Plugin) :
    transcript configuration backends targets plugins =
      (plan configuration targets plugins).map (Record.mk .info) ++
        ((if configuration.targets.toList = [] then [noTarget] else []) ++
          (Warning.ofTargets backends targets).map Warning.message).map (Record.mk .warn) :=
  rfl

theorem level_of_mem_transcript {configuration : Configuration} {backends : List Backend}
    {targets : List Target} {plugins : List Plugin} {record : Record}
    (member : record ∈ transcript configuration backends targets plugins) :
    record.level = .info ∨ record.level = .warn := by
  rcases List.mem_append.mp member with informs | warns
  · obtain ⟨message, -, rfl⟩ := List.mem_map.mp informs
    exact Or.inl rfl
  · obtain ⟨message, -, rfl⟩ := List.mem_map.mp warns
    exact Or.inr rfl

/-- A run logs what its policy admits of the transcript. -/
theorem records_ofResolved (configuration : Configuration) (backends : List Backend)
    {targets : List Target} (plugins : List Plugin)
    (resolved : ResolvedTo Target.parse configuration.targets.toList targets) :
    (ofResolved configuration backends targets plugins).records =
      (transcript configuration backends targets plugins).filter fun record =>
        configuration.logPolicy.admits record.level := by
  have targetless : targets.isEmpty = true ↔ configuration.targets.toList = [] := by
    rw [List.isEmpty_iff, ← List.length_eq_zero_iff, ← List.length_eq_zero_iff, resolved.length_eq]
  have warned : (if targets.isEmpty then configuration.logPolicy.caution noTarget else []) =
      configuration.logPolicy.cautionAll
        (if configuration.targets.toList = [] then [noTarget] else []) := by
    by_cases none : configuration.targets.toList = []
    · rw [if_pos (targetless.mpr none), if_pos none, LogPolicy.caution_eq_cautionAll]
    · rw [if_neg (mt targetless.mp none), if_neg none, LogPolicy.cautionAll_eq_filter]
      rfl
  rw [transcript_eq, List.filter_append, List.map_append (f := Record.mk .warn),
    List.filter_append, ← LogPolicy.flatMap_inform, ← LogPolicy.cautionAll_eq_filter,
    ← LogPolicy.cautionAll_eq_filter, ← warned, ← List.append_assoc]
  rfl

/-- A report is refused, or it is that of what its targets and plugins resolve to. -/
theorem refused_or_resolved (configuration : Configuration) (backends : List Backend) :
    (∃ error, ofConfiguration configuration backends = refused error) ∨
      ∃ targets plugins, configuration.resolveTargets = .ok targets ∧
        configuration.resolvePlugins = .ok plugins ∧
        ofConfiguration configuration backends =
          ofResolved configuration backends targets plugins := by
  unfold ofConfiguration
  cases configuration.resolveTargets with
  | error error => exact Or.inl ⟨error, rfl⟩
  | ok targets =>
    cases configuration.resolvePlugins with
    | error error => exact Or.inl ⟨error, rfl⟩
    | ok plugins => exact Or.inr ⟨targets, plugins, rfl, rfl, rfl⟩

/-! ### Accounts -/

/-- What specifications request: each the language that it names, with its own options. -/
def requested (requests : List CompactSpec) : List Target :=
  requests.map fun request => { language := request.name, options := request.options }

/-- The targets of entries are what the specifications request that the entries write. -/
theorem resolvedTo_target_iff {entries : List String} {targets : List Target} :
    ResolvedTo Target.parse entries targets ↔
      ∃ requests, ResolvedTo CompactSpec.parse entries requests ∧ requested requests = targets :=
  resolvedTo_map_iff

/-- What becomes of a run, whatever its verbosity is: the complaint about a target, else that about
a plugin, else the transcript. -/
inductive Account (configuration : Configuration) (backends : List Backend) :
    Except SpecError (List Record) → Prop
  | target {entry : String} (member : entry ∈ configuration.targets.toList) {cause : SpecError}
      (unresolved : CompactSpec.parse entry = .error cause) {error : SpecError}
      (complaint : configuration.resolveTargets = .error error) :
    Account configuration backends (.error error)
  | plugin {requests : List CompactSpec}
      (resolved : ResolvedTo CompactSpec.parse configuration.targets.toList requests)
      {entry : String} (member : entry ∈ configuration.plugins.toList) {cause : SpecError}
      (unresolved : Plugin.parse entry = .error cause) {error : SpecError}
      (complaint : configuration.resolvePlugins = .error error) :
    Account configuration backends (.error error)
  | full {requests : List CompactSpec} {plugins : List Plugin}
      (targetsResolved : ResolvedTo CompactSpec.parse configuration.targets.toList requests)
      (pluginsResolved : ResolvedTo Plugin.parse configuration.plugins.toList plugins) :
    Account configuration backends
      (.ok (transcript configuration backends (requested requests) plugins))

/-- The report that the two switches leave of an account. -/
def ofAccount (verbose quiet : Bool) : Except SpecError (List Record) → Report
  | .error error => { outcome := .error (.spec error), records := [] }
  | .ok records =>
    { outcome := .ok ()
      records :=
        if quiet then []
        else if verbose then records
        else records.filter fun record => record.level = .warn }

/-- Every run has an account. -/
theorem exists_account (configuration : Configuration) (backends : List Backend) :
    ∃ account, Account configuration backends account := by
  cases targetsAnswer : configuration.resolveTargets with
  | error error =>
    obtain ⟨entry, member, unresolved⟩ := exists_mem_of_mapM_eq_error targetsAnswer
    exact ⟨_, .target member (Target.parse_eq_error_iff.mp unresolved) targetsAnswer⟩
  | ok targets =>
    obtain ⟨requests, targetsResolved, rfl⟩ :=
      resolvedTo_target_iff.mp (mapM_eq_ok_iff.mp targetsAnswer)
    cases pluginsAnswer : configuration.resolvePlugins with
    | error error =>
      obtain ⟨entry, member, unresolved⟩ := exists_mem_of_mapM_eq_error pluginsAnswer
      exact ⟨_, .plugin targetsResolved member unresolved pluginsAnswer⟩
    | ok plugins => exact ⟨_, .full targetsResolved (mapM_eq_ok_iff.mp pluginsAnswer)⟩

/-- The report at any verbosity is what the switches leave of the account, since resolving does not
look at the switches. -/
theorem Account.ofConfiguration_eq {configuration : Configuration} {backends : List Backend}
    {account : Except SpecError (List Record)} (accounts : Account configuration backends account)
    (verbose quiet : Bool) :
    ofConfiguration { configuration with verbose, quiet } backends =
      ofAccount verbose quiet account := by
  have sameTargets : ({ configuration with verbose, quiet } : Configuration).resolveTargets =
    configuration.resolveTargets := rfl
  have samePlugins : ({ configuration with verbose, quiet } : Configuration).resolvePlugins =
    configuration.resolvePlugins := rfl
  rw [ofConfiguration, sameTargets, samePlugins]
  cases accounts with
  | target member unresolved complaint =>
    rw [complaint]
    rfl
  | plugin resolved member unresolved complaint =>
    have targets := resolvedTo_target_iff.mpr ⟨_, resolved, rfl⟩
    have answer : configuration.resolveTargets = .ok _ := mapM_eq_ok_iff.mpr targets
    rw [answer, complaint]
    rfl
  | @full requests plugins requestsResolved pluginsResolved =>
    have targetsResolved := resolvedTo_target_iff.mpr ⟨requests, requestsResolved, rfl⟩
    have targetsAnswer : configuration.resolveTargets = .ok _ := mapM_eq_ok_iff.mpr targetsResolved
    have pluginsAnswer : configuration.resolvePlugins = .ok _ := mapM_eq_ok_iff.mpr pluginsResolved
    have logged := records_ofResolved { configuration with verbose, quiet } backends plugins
      targetsResolved
    have selected := LogPolicy.filter_admits_ofSwitches verbose quiet
      fun record
          (member : record ∈ transcript configuration backends (requested requests) plugins) =>
        level_of_mem_transcript member
    rw [targetsAnswer, pluginsAnswer]
    exact congrArg (Report.mk (.ok ())) (logged.trans selected)

/-- With all that is to be said, a report shows its account. -/
theorem ofAccount_injective {first second : Except SpecError (List Record)}
    (same : ofAccount true false first = ofAccount true false second) : first = second := by
  cases first <;> cases second <;> simp [ofAccount] at same <;> rw [same]

/-- What a run logs stands in the transcript of what it resolved, and its policy admits it. -/
theorem exists_transcript_of_mem {configuration : Configuration} {backends : List Backend}
    {record : Record} (member : record ∈ (ofConfiguration configuration backends).records) :
    ∃ targets plugins, ResolvedTo Target.parse configuration.targets.toList targets ∧
      ResolvedTo Plugin.parse configuration.plugins.toList plugins ∧
      record ∈ transcript configuration backends targets plugins ∧
      configuration.logPolicy.admits record.level = true := by
  rcases refused_or_resolved configuration backends with
    ⟨error, refusal⟩ | ⟨targets, plugins, targetsAnswer, pluginsAnswer, report⟩
  · rw [refusal] at member
    cases member
  · have targetsResolved := mapM_eq_ok_iff.mp targetsAnswer
    rw [report, records_ofResolved _ _ _ targetsResolved] at member
    obtain ⟨among, admitted⟩ := List.mem_filter.mp member
    exact ⟨targets, plugins, targetsResolved, mapM_eq_ok_iff.mp pluginsAnswer, among, admitted⟩

/-- What is logged passes the threshold that is put on top of the channels. -/
theorem passing_eq_records (configuration : Configuration) (backends : List Backend) :
    (ofConfiguration configuration backends).passing configuration.logPolicy.threshold =
      (ofConfiguration configuration backends).records := by
  refine List.filter_eq_self.mpr fun record member => ?_
  obtain ⟨_, _, -, -, -, admitted⟩ := exists_transcript_of_mem member
  exact LogPolicy.passes_of_admits admitted

/-- A run has one account: the complaint about a target, else that about a plugin, else the
transcript. At any verbosity its report is what the switches leave of the account, and the threshold
for the log takes nothing more away. -/
theorem ofConfiguration_all_or_nothing (configuration : Configuration) (backends : List Backend) :
    ∃ account : Except SpecError (List Record),
      (∀ other, Account configuration backends other ↔ other = account) ∧
        ∀ verbose quiet,
          let asked := { configuration with verbose, quiet }
          let report := ofConfiguration asked backends
          report = ofAccount verbose quiet account ∧
            report.passing asked.logPolicy.threshold = report.records := by
  obtain ⟨account, accounts⟩ := exists_account configuration backends
  refine ⟨account, fun other => ⟨fun others => ?_, ?_⟩, fun verbose quiet =>
    ⟨accounts.ofConfiguration_eq verbose quiet, passing_eq_records _ _⟩⟩
  · exact ofAccount_injective
      ((others.ofConfiguration_eq true false).symm.trans (accounts.ofConfiguration_eq true false))
  · rintro rfl
    exact accounts

end Report

end ThriftCommand
