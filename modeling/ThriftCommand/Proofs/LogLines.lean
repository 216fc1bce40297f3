/-
This file proves which control characters a log line can hold. A line repeats the interface file,
the directories, and what the specifications name as they were written, and the words around them
are plain. What a warning repeats of an option is quoted. So a log has exactly the control
characters of what it repeats; and since all of that stands in the arguments of the run, character
by character, it has none that the arguments do not have.
-/

import ThriftCommand.Proofs.Messages
import ThriftCommand.Proofs.PluginName
import ThriftCommand.Proofs.Provenance
import ThriftCommand.Proofs.Verbosity

namespace ThriftCommand

/-! ### What a report repeats -/

theorem CompactSpec.Opens.subset {head text : String} (opens : Opens head text) :
    head.toList ⊆ text.toList := by
  cases opens with
  | whole => exact List.Subset.refl _
  | withOptions rest =>
    exact List.Subset.trans (toList_subset_append_left _ _) (toList_subset_append_left _ _)

/-- The language of a target stands in the text of the target. -/
theorem Target.language_subset {text : String} {target : Target} (read : parse text = .ok target) :
    target.language.toList ⊆ text.toList := by
  obtain ⟨spec, specRead, rfl⟩ := parse_eq_ok_iff.mp read
  obtain ⟨written, -, -⟩ := CompactSpec.parse_eq_ok_iff.mp specRead
  exact (CompactSpec.opens_of_writtenAs written).2.subset

theorem Plugin.Head.name_subset {name head : String} {path : Option String}
    (isHead : Head name path head) : name.toList ⊆ head.toList := by
  cases isHead with
  | alone => exact List.Subset.refl _
  | pathless => exact toList_subset_append_left _ _
  | located _ =>
    exact List.Subset.trans (toList_subset_append_left _ _) (toList_subset_append_left _ _)

theorem Plugin.Head.path_subset {name path head : String}
    (isHead : Head name (some path) head) : path.toList ⊆ head.toList := by
  cases isHead with
  | located _ => exact toList_subset_append_right _ _

/-- Name and path of a plugin stand in the text of the plugin. -/
theorem Plugin.subset_of_parse {text : String} {plugin : Plugin} (read : parse text = .ok plugin) :
    plugin.name.toList ⊆ text.toList ∧
      ∀ path, plugin.path = some path → path.toList ⊆ text.toList := by
  obtain ⟨⟨-, -, -, head, isHead, -, opens⟩, -⟩ := parse_eq_ok_iff.mp read
  refine ⟨List.Subset.trans isHead.name_subset opens.subset, fun path located => ?_⟩
  rw [located] at isHead
  exact List.Subset.trans isHead.path_subset opens.subset

/-- A warning about an option names one of the backends. -/
theorem Warning.exists_backend_of_mem {backends : List Backend} {targets : List Target}
    {key name : String} (member : .unknownOption key name ∈ ofTargets backends targets) :
    ∃ backend ∈ backends, backend.name = name := by
  obtain ⟨target, -, among⟩ := List.mem_flatMap.mp member
  unfold ofTarget at among
  split at among
  · cases List.mem_singleton.mp among
  · rename_i backend found
    obtain ⟨option, -, about⟩ := List.mem_filterMap.mp among
    refine ⟨backend, List.mem_of_find?_eq_some found, ?_⟩
    unfold ofOption? at about
    split at about
    · cases about
      rfl
    · split at about
      · split at about <;> cases about
      · cases about

/-- A warning quotes what it repeats of a target, so it has only the control characters that the
names of the backends have. -/
theorem Warning.control_notMem_message {c : Char} (control : Text.isControl c = true)
    {backends : List Backend} (named : ∀ backend ∈ backends, c ∉ backend.name.toList)
    {targets : List Target} {warning : Warning} (given : warning ∈ ofTargets backends targets) :
    c ∉ warning.message.toList := by
  intro within
  obtain ⟨key, name, rfl, spelled⟩ := exists_backend_of_control control within
  obtain ⟨backend, registered, rfl⟩ := exists_backend_of_mem given
  exact named backend registered spelled

/-! ### Control characters of a message -/

namespace Text

variable {c : Char} (control : isControl c = true)

include control

theorem Visible.mem_behind_iff {front : String} (visible : Visible front) (text : String) :
    c ∈ (front ++ text).toList ↔ c ∈ text.toList := by
  rw [String.toList_append, List.mem_append, or_iff_right (visible.control_notMem control)]

theorem Visible.mem_before_iff {back : String} (visible : Visible back) (text : String) :
    c ∈ (text ++ back).toList ↔ c ∈ text.toList := by
  rw [String.toList_append, List.mem_append, or_iff_left (visible.control_notMem control)]

/-- Parts that stand between plain separators bring in their own control characters only. -/
theorem mem_intercalate_iff {separator : String} (plain : Visible separator)
    (parts : List String) :
    c ∈ (separator.intercalate parts).toList ↔ ∃ part ∈ parts, c ∈ part.toList := by
  induction parts with
  | nil => simp [String.intercalate_nil]
  | cons part rest inductionHypothesis =>
    rw [List.exists_mem_cons_iff, ← inductionHypothesis]
    cases rest with
    | nil => simp [String.intercalate_singleton, String.intercalate_nil]
    | cons second others =>
      rw [String.intercalate_cons_cons, String.toList_append, List.mem_append,
        plain.mem_before_iff control]

end Text

theorem Record.mem_line_iff {c : Char} (control : Text.isControl c = true) (record : Record) :
    c ∈ record.line.toList ↔ c ∈ record.message.toList := by
  have tagged : Text.Visible record.level.tag := by cases record.level <;> decide +kernel
  exact tagged.mem_behind_iff control record.message

namespace Report

/-- What the informational messages repeat of a run, as it was written. -/
def repeated (configuration : Configuration) (targets : List Target) (plugins : List Plugin) :
    List String :=
  configuration.idl :: configuration.includes.toList
    ++ targets.flatMap (fun target => [target.language, configuration.outputFor target.language])
    ++ plugins.flatMap fun plugin => plugin.name :: plugin.path.toList

/-- What a run repeats in its log: nothing if it has no informational messages. -/
def spoken (configuration : Configuration) (targets : List Target) (plugins : List Plugin) :
    List String :=
  if configuration.logPolicy.info then repeated configuration targets plugins else []

/-- Messages that each repeat some texts repeat all of these texts together. -/
theorem exists_mem_map_iff {Item : Type} {c : Char} {message : Item → String}
    {texts : Item → List String}
    (each : ∀ item, c ∈ (message item).toList ↔ ∃ text ∈ texts item, c ∈ text.toList)
    (items : List Item) :
    (∃ said ∈ items.map message, c ∈ said.toList) ↔
      ∃ text ∈ items.flatMap texts, c ∈ text.toList := by
  simp only [List.mem_map, List.mem_flatMap, exists_exists_and_eq_and, each]
  constructor
  · rintro ⟨item, given, text, repeats, among⟩
    exact ⟨text, ⟨item, given, repeats⟩, among⟩
  · rintro ⟨text, ⟨item, given, repeats⟩, among⟩
    exact ⟨item, given, text, repeats, among⟩

section

variable {c : Char} (control : Text.isControl c = true)

include control

theorem mem_includes_iff (configuration : Configuration) :
    c ∈ ("Include paths: " ++ configuration.includes.render).toList ↔
      ∃ directory ∈ configuration.includes.toList, c ∈ directory.toList := by
  have front : Text.Visible "Include paths: " := by decide +kernel
  have opening : Text.Visible "[" := by decide
  have space : Text.Visible " " := by decide
  have closing : Text.Visible "]" := by decide
  rw [front.mem_behind_iff control, Occurrences.render, closing.mem_before_iff control,
    opening.mem_behind_iff control, Text.mem_intercalate_iff control space]

theorem mem_targetLine_iff (configuration : Configuration) (target : Target) :
    c ∈ (targetLine configuration target).toList ↔
      ∃ text ∈ [target.language, configuration.outputFor target.language], c ∈ text.toList := by
  have front : Text.Visible "Target " := by decide +kernel
  have arrow : Text.Visible " -> " := by decide
  rw [targetLine, String.toList_append, List.mem_append, arrow.mem_before_iff control,
    front.mem_behind_iff control]
  simp

theorem mem_pluginLine_iff (plugin : Plugin) :
    c ∈ (pluginLine plugin).toList ↔
      ∃ text ∈ plugin.name :: plugin.path.toList, c ∈ text.toList := by
  have front : Text.Visible "Plugin " := by decide +kernel
  have opening : Text.Visible " (" := by decide
  have closing : Text.Visible ")" := by decide
  unfold pluginLine
  cases plugin.path with
  | none =>
    dsimp only
    rw [front.mem_behind_iff control]
    simp
  | some path =>
    dsimp only
    rw [closing.mem_before_iff control, String.toList_append, List.mem_append,
      opening.mem_before_iff control, front.mem_behind_iff control]
    simp

/-- The informational messages have the control characters of what they repeat, and no others. -/
theorem exists_mem_plan_iff (configuration : Configuration) (targets : List Target)
    (plugins : List Plugin) :
    (∃ message ∈ plan configuration targets plugins, c ∈ message.toList) ↔
      ∃ text ∈ repeated configuration targets plugins, c ∈ text.toList := by
  have file : Text.Visible "IDL: " := by decide
  have recursion : Text.Visible ("Recursive: " ++ truth configuration.recurse) := by
    cases configuration.recurse <;> decide +kernel
  have header : (∃ message ∈ ["IDL: " ++ configuration.idl,
        "Include paths: " ++ configuration.includes.render,
        "Recursive: " ++ truth configuration.recurse], c ∈ message.toList) ↔
      ∃ text ∈ configuration.idl :: configuration.includes.toList, c ∈ text.toList := by
    simp only [List.exists_mem_cons_iff, file.mem_behind_iff control,
      mem_includes_iff control configuration, recursion.control_notMem control, List.not_mem_nil,
      false_and, exists_false, or_false]
  have aboutTargets := exists_mem_map_iff (mem_targetLine_iff control configuration) targets
  have aboutPlugins := exists_mem_map_iff (mem_pluginLine_iff control) plugins
  unfold plan repeated
  simp only [List.mem_append, or_and_right, exists_or, header, aboutTargets, aboutPlugins]

end

/-! ### Records -/

theorem info_mem_transcript_iff {configuration : Configuration} {backends : List Backend}
    {targets : List Target} {plugins : List Plugin} {message : String} :
    ⟨.info, message⟩ ∈ transcript configuration backends targets plugins ↔
      message ∈ plan configuration targets plugins := by
  rw [transcript_eq, List.mem_append]
  constructor
  · rintro (informs | warns)
    · obtain ⟨planned, member, same⟩ := List.mem_map.mp informs
      cases same
      exact member
    · obtain ⟨warned, -, other⟩ := List.mem_map.mp warns
      cases other
  · exact fun planned => Or.inl (List.mem_map_of_mem planned)

section

variable {c : Char} (control : Text.isControl c = true) {backends : List Backend}
  (named : ∀ backend ∈ backends, c ∉ backend.name.toList) {configuration : Configuration}
  {targets : List Target}

include control named

theorem control_notMem_of_warn {plugins : List Plugin} {record : Record}
    (member : record ∈ transcript configuration backends targets plugins)
    (warns : record.level = .warn) : c ∉ record.line.toList := by
  rw [record.mem_line_iff control]
  rw [transcript_eq] at member
  rcases List.mem_append.mp member with informs | warned
  · obtain ⟨message, -, rfl⟩ := List.mem_map.mp informs
    cases warns
  · obtain ⟨message, among, rfl⟩ := List.mem_map.mp warned
    rcases List.mem_append.mp among with targetless | about
    · have visible : Text.Visible noTarget := by decide +kernel
      split at targetless
      · rw [List.mem_singleton.mp targetless]
        exact visible.control_notMem control
      · cases targetless
    · obtain ⟨warning, given, rfl⟩ := List.mem_map.mp about
      exact Warning.control_notMem_message control named given

/-- A report that resolves its targets and plugins logs the control characters of what it repeats,
and no others. -/
theorem exists_mem_records_iff
    (resolved : ResolvedTo Target.parse configuration.targets.toList targets)
    (plugins : List Plugin) :
    (∃ record ∈ (ofResolved configuration backends targets plugins).records,
        c ∈ record.line.toList) ↔
      ∃ text ∈ spoken configuration targets plugins, c ∈ text.toList := by
  rw [records_ofResolved configuration backends plugins resolved]
  constructor
  · rintro ⟨record, member, within⟩
    obtain ⟨said, admitted⟩ := List.mem_filter.mp member
    rcases level_of_mem_transcript said with informs | warns
    · obtain ⟨level, message⟩ := record
      cases informs
      have channel : configuration.logPolicy.info = true := admitted
      rw [spoken, if_pos channel]
      exact (exists_mem_plan_iff control configuration targets plugins).mp
        ⟨message, info_mem_transcript_iff.mp said, (Record.mem_line_iff control _).mp within⟩
    · exact absurd within (control_notMem_of_warn control named said warns)
  · rintro ⟨text, said, within⟩
    unfold spoken at said
    split at said
    · rename_i admitted
      obtain ⟨message, planned, among⟩ :=
        (exists_mem_plan_iff control configuration targets plugins).mpr ⟨text, said, within⟩
      exact ⟨⟨.info, message⟩,
        List.mem_filter.mpr ⟨info_mem_transcript_iff.mpr planned, admitted⟩,
        (Record.mem_line_iff control _).mpr among⟩
    · cases said

/-- The log is without a control character just if all that the run repeats is without it. -/
theorem forall_notMem_records_iff
    (resolved : ResolvedTo Target.parse configuration.targets.toList targets)
    (plugins : List Plugin) :
    (∀ record ∈ (ofResolved configuration backends targets plugins).records,
        c ∉ record.line.toList) ↔
      ∀ text ∈ spoken configuration targets plugins, c ∉ text.toList := by
  simpa using not_congr (exists_mem_records_iff control named resolved plugins)

end

/-! ### Plain lines -/

/-- The control characters of what a run repeats stand in the texts that it is configured with. -/
theorem exists_text_of_mem_repeated {configuration : Configuration} {targets : List Target}
    {plugins : List Plugin}
    (targetsResolved : ResolvedTo Target.parse configuration.targets.toList targets)
    (pluginsResolved : ResolvedTo Plugin.parse configuration.plugins.toList plugins) {c : Char}
    (control : Text.isControl c = true) {said : String}
    (member : said ∈ repeated configuration targets plugins) (within : c ∈ said.toList) :
    ∃ text ∈ configuration.texts, c ∈ text.toList := by
  rcases List.mem_append.mp member with others | aboutPlugin
  · rcases List.mem_append.mp others with header | aboutTarget
    · refine ⟨said, ?_, within⟩
      rcases List.mem_cons.mp header with rfl | directory
      · simp [Configuration.texts]
      · simp [Configuration.texts, directory]
    · obtain ⟨target, among, part⟩ := List.mem_flatMap.mp aboutTarget
      obtain ⟨entry, given, read⟩ := targetsResolved.exists_entry among
      have written : entry ∈ configuration.texts := by simp [Configuration.texts, given]
      have language := Target.language_subset read
      have prefixed : Text.Visible "./gen-" := by decide
      simp only [List.mem_cons, List.not_mem_nil, or_false] at part
      rcases part with rfl | rfl
      · exact ⟨entry, written, language within⟩
      · unfold Configuration.outputFor at within
        cases output : configuration.output with
        | none =>
          rw [output, Option.getD_none, prefixed.mem_behind_iff control] at within
          exact ⟨entry, written, language within⟩
        | some directory =>
          rw [output, Option.getD_some] at within
          exact ⟨directory, by simp [Configuration.texts, output], within⟩
  · obtain ⟨plugin, among, part⟩ := List.mem_flatMap.mp aboutPlugin
    obtain ⟨entry, given, read⟩ := pluginsResolved.exists_entry among
    obtain ⟨name, path⟩ := Plugin.subset_of_parse read
    refine ⟨entry, by simp [Configuration.texts, given], ?_⟩
    rcases List.mem_cons.mp part with rfl | executable
    · exact name within
    · exact path said (Option.mem_toList.mp executable) within

/-- Every line of a log is plain text if what the run is configured with is, and the names of the
backends are. -/
theorem visible_of_mem_records {configuration : Configuration} {backends : List Backend}
    (texts : ∀ text ∈ configuration.texts, Text.Visible text)
    (named : ∀ backend ∈ backends, Text.Visible backend.name)
    {record : Record} (member : record ∈ (ofConfiguration configuration backends).records) :
    Text.Visible record.line := by
  intro c within
  rw [← Bool.not_eq_true]
  intro control
  rcases refused_or_resolved configuration backends with
    ⟨error, refusal⟩ | ⟨targets, plugins, targetsAnswer, pluginsAnswer, report⟩
  · rw [refusal] at member
    cases member
  · rw [report] at member
    have targetsResolved := mapM_eq_ok_iff.mp targetsAnswer
    obtain ⟨said, spoke, among⟩ := (exists_mem_records_iff control
      (fun backend registered => (named backend registered).control_notMem control)
      targetsResolved plugins).mp ⟨record, member, within⟩
    unfold spoken at spoke
    split at spoke
    · obtain ⟨text, given, held⟩ := exists_text_of_mem_repeated targetsResolved
        (mapM_eq_ok_iff.mp pluginsAnswer) control spoke among
      exact (texts text given).control_notMem control held
    · cases spoke

end Report

end ThriftCommand
