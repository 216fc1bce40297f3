/-
This file proves what the program writes and how it exits, whatever the command line is. A question
gets its answer, a refused command line its message, and a run its log. The log shares an output
with the messages, but a run whose specifications do not resolve has logged nothing, so no two of
them ever mix.

A log passes a filter for terminals on its way out. The content here is that the filter takes
nothing from it as long as the arguments hold no control character.
-/

import ThriftCommand.Execution
import ThriftCommand.Proofs.LogLines

namespace ThriftCommand

/-! ### What a report leaves to write -/

/-- A report fails for a specification only. -/
theorem Report.exists_spec_of_outcome {configuration : Configuration} {backends : List Backend}
    {error : UsageError}
    (failed : (ofConfiguration configuration backends).outcome = .error error) :
    ∃ cause, error = .spec cause := by
  rcases refused_or_resolved configuration backends with
    ⟨cause, refusal⟩ | ⟨targets, plugins, -, -, report⟩
  · rw [refusal] at failed
    cases failed
    exact ⟨cause, rfl⟩
  · rw [report] at failed
    cases failed

/-- A quiet run logs nothing. -/
theorem Report.records_eq_nil_of_quiet {configuration : Configuration} (backends : List Backend)
    (quiet : configuration.quiet = true) :
    (ofConfiguration configuration backends).records = [] := by
  rw [List.eq_nil_iff_forall_not_mem]
  intro record member
  obtain ⟨_, _, -, -, -, admitted⟩ := exists_transcript_of_mem member
  rw [Configuration.logPolicy, quiet] at admitted
  cases level : record.level <;> simp [level, LogPolicy.admits, LogPolicy.ofSwitches] at admitted

/-- The backends that there are have plain names. -/
theorem Backend.visible_name_of_registered :
    ∀ backend ∈ Backend.registered, Text.Visible backend.name := by
  decide +kernel

namespace Execution

/-- A record without escape characters is written as one piece: what is printed of its line, and a
line feed. -/
theorem written_of_escapeless {record : Record} (escapeless : '\x1B' ∉ record.line.toList) :
    written record = String.ofList (record.line.toList.filter Text.isPrinted) ++ "\n" := by
  have terminated : '\x1B' ∉ (Help.line record.line).toList := by
    rw [Help.line, String.toList_append, List.mem_append]
    exact not_or.mpr ⟨escapeless, by decide⟩
  have feed : "\n".toList.filter Text.isPrinted = "\n".toList := by decide
  rw [written, Text.stripControls_of_escapeless .suspends terminated, Help.line,
    String.toList_append, List.filter_append, feed, String.ofList_append, String.ofList_toList]

/-- A record of plain text is written as its line. -/
theorem written_of_visible {record : Record} (visible : Text.Visible record.line) :
    written record = record.line ++ "\n" := by
  have printed : ∀ c ∈ record.line.toList, Text.isPrinted c = true := by
    intro c member
    rw [Text.isPrinted, visible c member]
    rfl
  rw [written_of_escapeless (visible.control_notMem (by decide)),
    List.filter_eq_self.mpr printed, String.ofList_toList]

/-- A terminal would obey this sequence and not show it, so it is missing from what is written. -/
example : written ⟨.info, "IDL: a\x1B[1mb.thrift"⟩ = "[INFO] IDL: ab.thrift\n" := by decide +kernel

/-- The refusal of a wrong flag writes the message as it is, and the help text. -/
theorem refusal_of_flags (backends : List Backend) (error : FlagError) :
    refusal backends (.flags error) =
      { code := 2, stdout := "", stderr := error.message ++ "\n" ++ Help.render backends } := by
  rw [refusal, UsageError.trimEnd_message, String.ofList_toList]
  rfl

/-- Any other refusal writes the message and nothing else. -/
theorem refusal_of_others (backends : List Backend) {error : UsageError}
    (others : ∀ flag, error ≠ .flags flag) :
    refusal backends error = { code := 2, stdout := "", stderr := error.message ++ "\n" } := by
  have helpless : error.showsHelp = false := by
    cases error with
    | flags flag => exact absurd rfl (others flag)
    | argumentCount | emptyIdl | spec => rfl
  rw [refusal, error.trimEnd_message, String.ofList_toList, helpless]
  exact congrArg (Execution.mk 2 "") String.append_empty

/-! ### Answers -/

/-- What the program does about a command line with these arguments, for each thing that it can ask
for. Every message is one line. -/
inductive Answers (backends : List Backend) (arguments : List String) :
    Except UsageError Invocation → Execution → Prop
  | version :
    Answers backends arguments (.ok .version)
      { code := 0, stdout := Help.versionLine ++ "\n", stderr := "" }
  | help :
    Answers backends arguments (.ok .help)
      { code := 2, stdout := "", stderr := Help.render backends }
  | wrongFlag {error : FlagError} (oneLine : '\n' ∉ error.message.toList) :
    Answers backends arguments (.error (.flags error))
      { code := 2, stdout := "", stderr := error.message ++ "\n" ++ Help.render backends }
  | refused {error : UsageError} (others : ∀ flag, error ≠ .flags flag)
      (oneLine : '\n' ∉ error.message.toList) :
    Answers backends arguments (.error error)
      { code := 2, stdout := "", stderr := error.message ++ "\n" }
  | unresolved {configuration : Configuration} {error : UsageError}
      (failed : (Report.ofConfiguration configuration backends).outcome = .error error)
      (oneLine : '\n' ∉ error.message.toList) :
    Answers backends arguments (.ok (.run configuration))
      { code := 2, stdout := "", stderr := error.message ++ "\n" }
  | reported {configuration : Configuration} {log : String}
      (succeeded : (Report.ofConfiguration configuration backends).outcome = .ok ())
      (lines : (∀ argument ∈ arguments.tail, Text.Visible argument) →
        log = String.join ((Report.ofConfiguration configuration backends).records.map
          fun record => record.line ++ "\n"))
      (silent : configuration.quiet = true → log = "") :
    Answers backends arguments (.ok (.run configuration)) { code := 0, stdout := "", stderr := log }

/-- The command line asks for the version, or for a run whose report succeeds. -/
def Succeeds (backends : List Backend) (result : Except UsageError Invocation) : Prop :=
  result = .ok .version ∨ ∃ configuration, result = .ok (.run configuration) ∧
    (Report.ofConfiguration configuration backends).outcome = .ok ()

/-- There are two exit statuses, and success has the first one to itself. -/
theorem Answers.code_iff {backends : List Backend} {arguments : List String}
    {result : Except UsageError Invocation} {execution : Execution}
    (answers : Answers backends arguments result execution) :
    (execution.code = 0 ↔ Succeeds backends result) ∧
      (execution.code = 2 ↔ ¬ Succeeds backends result) := by
  have success : Succeeds backends result →
      ((0 : UInt8) = 0 ↔ Succeeds backends result) ∧
        ((0 : UInt8) = 2 ↔ ¬ Succeeds backends result) :=
    fun succeeds => ⟨by simp [succeeds], by simp [succeeds]⟩
  have failure : ¬ Succeeds backends result →
      ((2 : UInt8) = 0 ↔ Succeeds backends result) ∧
        ((2 : UInt8) = 2 ↔ ¬ Succeeds backends result) :=
    fun fails => ⟨by simp [fails], by simp [fails]⟩
  cases answers with
  | version => exact success (Or.inl rfl)
  | help | wrongFlag | refused => exact failure (by simp [Succeeds])
  | unresolved failed => exact failure (by simp [Succeeds, failed])
  | reported succeeded => exact success (Or.inr ⟨_, rfl, succeeded⟩)

/-- The log of a run is its lines, if the arguments of the run hold no control character. -/
theorem written_of_mem_records {arguments : List String} {configuration : Configuration}
    (run : Invocation.ofArguments (arguments.map Token.ofString) = .ok (.run configuration))
    (plain : ∀ argument ∈ arguments.tail, Text.Visible argument) {record : Record}
    (member : record ∈ (Report.ofConfiguration configuration Backend.registered).records) :
    written record = record.line ++ "\n" := by
  have texts : ∀ text ∈ configuration.texts, Text.Visible text := by
    intro text among
    obtain ⟨argument, given, within⟩ := exists_argument_of_mem_texts run among
    exact (plain argument given).of_subset within
  exact written_of_visible
    (Report.visible_of_mem_records texts Backend.visible_name_of_registered member)

/-- A command line that is refused is answered with its message. -/
theorem answers_refusal (backends : List Backend) (arguments : List String) (error : UsageError) :
    Answers backends arguments (.error error) (refusal backends error) := by
  have oneLine := error.newline_notMem_message
  by_cases flags : ∃ flag, error = .flags flag
  · obtain ⟨flag, rfl⟩ := flags
    rw [refusal_of_flags]
    exact .wrongFlag oneLine
  · have others : ∀ flag, error ≠ .flags flag := not_exists.mp flags
    rw [refusal_of_others backends others]
    exact .refused others oneLine

/-- A run is answered with its log, or with the complaint about a specification. -/
theorem answers_ofConfiguration {arguments : List String} {configuration : Configuration}
    (run : Invocation.ofArguments (arguments.map Token.ofString) = .ok (.run configuration)) :
    Answers Backend.registered arguments (.ok (.run configuration))
      (ofConfiguration Backend.registered configuration) := by
  rw [ofConfiguration, Report.passing_eq_records]
  cases outcome : (Report.ofConfiguration configuration Backend.registered).outcome with
  | error error =>
    obtain ⟨cause, rfl⟩ := Report.exists_spec_of_outcome outcome
    have others : ∀ flag, UsageError.spec cause ≠ .flags flag := by simp
    dsimp only
    rw [refusal_of_others Backend.registered others]
    exact .unresolved outcome (UsageError.newline_notMem_message _)
  | ok =>
    refine .reported outcome (fun plain => ?_) fun quiet => ?_
    · exact congrArg String.join
        (List.map_congr_left fun record member => written_of_mem_records run plain member)
    · rw [Report.records_eq_nil_of_quiet Backend.registered quiet]
      rfl

/-- Every command line gets the answer to what it asks for, and the exit status tells success from
failure. -/
theorem ofArguments_answers (arguments : List String) :
    Answers Backend.registered arguments (Invocation.ofArguments (arguments.map Token.ofString))
        (ofArguments Backend.registered (arguments.map Token.ofString)) ∧
      ((ofArguments Backend.registered (arguments.map Token.ofString)).code = 0 ↔
        Succeeds Backend.registered (Invocation.ofArguments (arguments.map Token.ofString))) ∧
      ((ofArguments Backend.registered (arguments.map Token.ofString)).code = 2 ↔
        ¬ Succeeds Backend.registered (Invocation.ofArguments (arguments.map Token.ofString))) := by
  have answers : Answers Backend.registered arguments
      (Invocation.ofArguments (arguments.map Token.ofString))
      (ofArguments Backend.registered (arguments.map Token.ofString)) := by
    unfold ofArguments
    cases asked : Invocation.ofArguments (arguments.map Token.ofString) with
    | error error => exact answers_refusal Backend.registered arguments error
    | ok invocation =>
      cases invocation with
      | version => exact .version
      | help => exact .help
      | run configuration => exact answers_ofConfiguration asked
  exact ⟨answers, answers.code_iff⟩

end Execution

end ThriftCommand
