/-
This file proves when a log has one line for each message. A message repeats user text as it was
written, so a line feed in the interface file, in a directory, in a language or in the name or path
of a plugin breaks the line of the message. Nothing else does: the words of a message are plain, a
warning quotes, and a run that does not inform repeats nothing. Such a run has one line for each
message whatever its arguments are.

The output shows a log without its control sequences. Without escape characters there are none to
drop, and the line feeds that stay are counted: each record ends in one, so an output with as many
lines as records has no room for another.
-/

import Mathlib.Data.List.Forall2
import ThriftCommand.Proofs.Outcomes

namespace ThriftCommand.Execution

/-! ### Counting line feeds -/

theorem count_newline_join_cons (line : String) (rest : List String) :
    (String.join ((line :: rest).map Help.line)).toList.count '\n' =
      line.toList.count '\n' + 1 + (String.join (rest.map Help.line)).toList.count '\n' := by
  have ended : (Help.line line).toList.count '\n' = line.toList.count '\n' + 1 := by
    rw [Help.line, String.toList_append, List.count_append]
    rfl
  rw [List.map_cons, String.join_cons, String.toList_append, List.count_append, ended]

/-- Every line ends in a line feed. -/
theorem length_le_count_newline_join (lines : List String) :
    lines.length ≤ (String.join (lines.map Help.line)).toList.count '\n' := by
  induction lines with
  | nil => exact Nat.zero_le _
  | cons line rest inductionHypothesis =>
    rw [count_newline_join_cons, List.length_cons]
    omega

/-- As many line feeds as lines leave none to stand inside a line. -/
theorem count_newline_join_eq_length_iff (lines : List String) :
    (String.join (lines.map Help.line)).toList.count '\n' = lines.length ↔
      ∀ line ∈ lines, '\n' ∉ line.toList := by
  induction lines with
  | nil => exact ⟨fun _ line member => absurd member List.not_mem_nil, fun _ => rfl⟩
  | cons line rest inductionHypothesis =>
    have later := length_le_count_newline_join rest
    rw [List.forall_mem_cons, ← inductionHypothesis, ← List.count_eq_zero,
      count_newline_join_cons, List.length_cons]
    omega

/-! ### The lines of a log -/

/-- What is printed of the line of a record. -/
def shown (record : Record) : String :=
  String.ofList (record.line.toList.filter Text.isPrinted)

theorem newline_mem_shown_iff (record : Record) :
    '\n' ∈ (shown record).toList ↔ '\n' ∈ record.line.toList := by
  have printed : Text.isPrinted '\n' = true := by decide
  rw [shown, String.toList_ofList, List.mem_filter, and_iff_left printed]

/-- What is printed begins with the tag. -/
theorem shown_eq_tag_append (record : Record) :
    shown record =
      record.level.tag ++ String.ofList (record.message.toList.filter Text.isPrinted) := by
  have tag : record.level.tag.toList.filter Text.isPrinted = record.level.tag.toList := by
    cases record.level <;> decide +kernel
  rw [shown, Record.line, String.toList_append, List.filter_append, tag, String.ofList_append,
    String.ofList_toList]

/-- The output has one line for each of the records, in their order, and each line begins with the
tag of its record. -/
def LineByLine (records : List Record) (output : String) : Prop :=
  ∃ lines : List String, output = String.join (lines.map Help.line) ∧
    (∀ line ∈ lines, '\n' ∉ line.toList) ∧
    List.Forall₂ (fun record line => ∃ rest, line = record.level.tag ++ rest) records lines

/-- Without escape characters the output has one line for each record just if each record has one
line. -/
theorem lineByLine_iff {records : List Record}
    (escapeless : ∀ record ∈ records, '\x1B' ∉ record.line.toList) :
    LineByLine records (String.join (records.map written)) ↔
      ∀ record ∈ records, '\n' ∉ record.line.toList := by
  have output : records.map written = (records.map shown).map Help.line := by
    rw [List.map_map]
    exact List.map_congr_left fun record member => written_of_escapeless (escapeless record member)
  have clean : (∀ line ∈ records.map shown, '\n' ∉ line.toList) ↔
      ∀ record ∈ records, '\n' ∉ record.line.toList := by
    simp only [List.forall_mem_map, newline_mem_shown_iff]
  rw [output, ← clean]
  constructor
  · rintro ⟨lines, same, unbroken, tagged⟩
    have counted := (count_newline_join_eq_length_iff lines).mpr unbroken
    rw [← same, ← tagged.length_eq, ← List.length_map shown] at counted
    exact (count_newline_join_eq_length_iff (records.map shown)).mp counted
  · intro unbroken
    refine ⟨records.map shown, rfl, unbroken, List.forall₂_map_right_iff.mpr ?_⟩
    exact List.forall₂_same.mpr fun record _ => ⟨_, shown_eq_tag_append record⟩

/-! ### The log of a run -/

/-- A run whose report succeeds writes its log and nothing else. -/
theorem stderr_ofArguments_of_run {backends : List Backend} {arguments : List Token}
    {configuration : Configuration}
    (run : Invocation.ofArguments arguments = .ok (.run configuration))
    (succeeded : (Report.ofConfiguration configuration backends).outcome = .ok ()) :
    (ofArguments backends arguments).stderr =
      String.join ((Report.ofConfiguration configuration backends).records.map written) := by
  rw [ofArguments, run]
  dsimp only
  rw [ofConfiguration, succeeded, Report.passing_eq_records]

theorem control_notMem_registered {c : Char} (control : Text.isControl c = true) :
    ∀ backend ∈ Backend.registered, c ∉ backend.name.toList :=
  fun backend registered =>
    (Backend.visible_name_of_registered backend registered).control_notMem control

/-- A run whose report succeeds has resolved its targets and plugins, and its log has the control
characters of what it repeats of them, and no others. -/
theorem exists_spoken_of_outcome {configuration : Configuration}
    (succeeded : (Report.ofConfiguration configuration Backend.registered).outcome = .ok ()) :
    ∃ targets plugins, configuration.resolveTargets = .ok targets ∧
      configuration.resolvePlugins = .ok plugins ∧
      ∀ c, Text.isControl c = true →
        ((∀ record ∈ (Report.ofConfiguration configuration Backend.registered).records,
            c ∉ record.line.toList) ↔
          ∀ text ∈ Report.spoken configuration targets plugins, c ∉ text.toList) := by
  rcases Report.refused_or_resolved configuration Backend.registered with
    ⟨error, refusal⟩ | ⟨targets, plugins, targetsAnswer, pluginsAnswer, report⟩
  · rw [refusal] at succeeded
    cases succeeded
  · refine ⟨targets, plugins, targetsAnswer, pluginsAnswer, fun c control => ?_⟩
    rw [report]
    exact Report.forall_notMem_records_iff control (control_notMem_registered control)
      (mapM_eq_ok_iff.mp targetsAnswer) plugins

/-- A run whose report succeeds logs information and warnings. A warning is one line. A message
that informs is one line unless what the run repeats has a line feed; so without informational
messages every message is one line, and with them just if nothing that is repeated has a line feed.
Without escape characters in what is repeated, just then the output has one line for each message,
beginning with its tag. -/
theorem ofArguments_logs_lines {arguments : List Token} {configuration : Configuration}
    (run : Invocation.ofArguments arguments = .ok (.run configuration))
    (succeeded : (Report.ofConfiguration configuration Backend.registered).outcome = .ok ()) :
    ∃ targets plugins, configuration.resolveTargets = .ok targets ∧
      configuration.resolvePlugins = .ok plugins ∧
      let records := (Report.ofConfiguration configuration Backend.registered).records
      let spoken := Report.spoken configuration targets plugins
      (∀ record ∈ records, record.level = .info ∨
        record.level = .warn ∧ '\n' ∉ record.line.toList) ∧
      ((∀ record ∈ records, '\n' ∉ record.line.toList) ↔ ∀ text ∈ spoken, '\n' ∉ text.toList) ∧
      ((∀ text ∈ spoken, '\x1B' ∉ text.toList) →
        (LineByLine records (ofArguments Backend.registered arguments).stderr ↔
          ∀ text ∈ spoken, '\n' ∉ text.toList)) := by
  obtain ⟨targets, plugins, targetsAnswer, pluginsAnswer, repeats⟩ :=
    exists_spoken_of_outcome succeeded
  have feeds := repeats '\n' (by decide)
  refine ⟨targets, plugins, targetsAnswer, pluginsAnswer, fun record member => ?_, feeds,
    fun escapeless => ?_⟩
  · obtain ⟨_, _, -, -, said, -⟩ := Report.exists_transcript_of_mem member
    exact (Report.level_of_mem_transcript said).imp_right fun warns =>
      ⟨warns, Report.control_notMem_of_warn (by decide) (control_notMem_registered (by decide))
        said warns⟩
  · rw [stderr_ofArguments_of_run run succeeded,
      lineByLine_iff ((repeats '\x1B' (by decide)).mpr escapeless)]
    exact feeds

/-- With an escape character a record may lose its end: this command to the terminal runs on past
it. -/
example : written ⟨.info, "IDL: a\x1B]b"⟩ = "[INFO] IDL: a" := by decide +kernel

/-- Without verbosity this file is not named, and a warning quotes the language: there is one line,
whatever line feeds the two have. -/
theorem ofArguments_logs_lines_quoted :
    ∃ configuration,
      Invocation.ofArguments (["thriftgen", "-g", "c\n", "a\nb"].map Token.ofString) =
        .ok (.run configuration) ∧
      (Report.ofConfiguration configuration Backend.registered).outcome = .ok () ∧
      (Report.ofConfiguration configuration Backend.registered).records =
        [⟨.warn, "No backend registered for language \"c\\n\""⟩] ∧
      LineByLine (Report.ofConfiguration configuration Backend.registered).records
        (ofArguments Backend.registered
          (["thriftgen", "-g", "c\n", "a\nb"].map Token.ofString)).stderr := by
  have run : Invocation.ofArguments
      (["thriftgen", "-g", "c\n", "a\nb"].map Token.ofString) =
    .ok (.run ⟨false, false, false, false, none, {}, {}, Occurrences.ofList ["c\n"], "a\nb"⟩) := rfl
  obtain ⟨targets, plugins, -, -, -, -, output⟩ := ofArguments_logs_lines run rfl
  have silent : ∀ text ∈ Report.spoken
      ⟨false, false, false, false, none, {}, {}, Occurrences.ofList ["c\n"], "a\nb"⟩
      targets plugins, False := fun text member => List.not_mem_nil member
  exact ⟨_, run, rfl, rfl, (output fun text member => (silent text member).elim).mpr
    fun text member => (silent text member).elim⟩

/-- With verbosity the name of the file takes two lines of the output, and the second has no tag. -/
theorem ofArguments_breaks_line :
    ∃ configuration,
      Invocation.ofArguments (["thriftgen", "-v", "a\nb"].map Token.ofString) =
        .ok (.run configuration) ∧
      (Report.ofConfiguration configuration Backend.registered).outcome = .ok () ∧
      (∃ record ∈ (Report.ofConfiguration configuration Backend.registered).records,
        '\n' ∈ record.line.toList) ∧
      (Report.ofConfiguration configuration Backend.registered).records.length = 4 ∧
      (ofArguments Backend.registered
          (["thriftgen", "-v", "a\nb"].map Token.ofString)).stderr =
        "[INFO] IDL: a\nb\n[INFO] Include paths: []\n[INFO] Recursive: false\n" ++
          "[WARN] No target language specified (use -g), nothing will be generated\n" := by
  refine ⟨⟨false, false, true, false, none, {}, {}, {}, "a\nb"⟩, rfl, rfl,
    ⟨⟨.info, "IDL: a\nb"⟩, List.mem_cons_self, by decide +kernel⟩, rfl, ?_⟩
  decide +kernel

end ThriftCommand.Execution
