/-
This file proves that nothing behind the first operand is interpreted. The options in front of it
say whether help or the version is asked for and what a run would hold. Of the operands, only their
number matters beside the text of a single one. A token that looks like a flag is one more operand
there, and so is a second pair of dashes.

The pass over the dashes and the reader stop at the same token, the one after the last option, so
the whole answer is that of the settled values with the operands as they were written.
-/

import ThriftCommand.Invocation
import ThriftCommand.Proofs.Canonical

namespace ThriftCommand

open Spelling

/-! ### Answers -/

/-- The configuration holds what is settled. An empty output directory is the same as none. -/
structure Configuration.Holds (configuration : Configuration) (settings : Settings) : Prop where
  recurse : configuration.recurse = settings.recurse
  verbose : configuration.verbose = settings.verbose
  quiet : configuration.quiet = settings.quiet
  output : ∀ directory, configuration.output = some directory ↔
    settings.output = some directory ∧ directory ≠ ""
  includes : configuration.includes.toList = settings.includes
  plugins : configuration.plugins.toList = settings.plugins
  targets : configuration.targets.toList = settings.targets

/-- The answer to operands where this is settled, and a run would have this configuration. -/
inductive Answer (settings : Settings) (configuration : Configuration) :
    List String → Except UsageError Invocation → Prop
  | help (asked : settings.help = true) (operands : List String) :
    Answer settings configuration operands (.ok .help)
  | version (noHelp : settings.help = false) (asked : settings.version = true)
      (operands : List String) :
    Answer settings configuration operands (.ok .version)
  | count (noHelp : settings.help = false) (noVersion : settings.version = false)
      {operands : List String} (notOne : operands.length ≠ 1) :
    Answer settings configuration operands (.error (.argumentCount operands.length))
  | empty (noHelp : settings.help = false) (noVersion : settings.version = false) :
    Answer settings configuration [""] (.error .emptyIdl)
  | run (noHelp : settings.help = false) (noVersion : settings.version = false) {idl : String}
      (nonempty : idl ≠ "") :
    Answer settings configuration [idl] (.ok (.run { configuration with idl }))

/-! ### One operand, or any other number -/

theorem Configuration.ofCommandLine_of_length_ne_one {line : CommandLine}
    (notOne : line.operands.length ≠ 1) :
    ofCommandLine line = .error (.argumentCount line.operands.length) := by
  unfold ofCommandLine
  split
  · rename_i single
    simp [single] at notOne
  · rfl

/-- Unless there is exactly one operand, it does not matter what the operands are. -/
theorem Invocation.ofCommandLine_congr_length {settings : Settings} {operands others : List String}
    (sameCount : operands.length = others.length) (notOne : operands.length ≠ 1) :
    ofCommandLine { settings, operands } = ofCommandLine { settings, operands := others } := by
  unfold ofCommandLine
  rw [Configuration.ofCommandLine_of_length_ne_one notOne,
    Configuration.ofCommandLine_of_length_ne_one (sameCount ▸ notOne)]
  simp only [sameCount]

/-- The configuration that is settled before the operand is known. -/
def Configuration.awaitingIdl (settings : Settings) : Configuration :=
  { Configuration.ofSettings settings "" with askVersion := false }

theorem Configuration.awaitingIdl_holds (settings : Settings) :
    (awaitingIdl settings).Holds settings := by
  refine ⟨rfl, rfl, rfl, fun directory => ?_, Occurrences.toList_ofList _,
    Occurrences.toList_ofList _, Occurrences.toList_ofList _⟩
  simp [awaitingIdl, ofSettings, Option.filter_eq_some_iff]

theorem Answer.ofCommandLine (settings : Settings) (operands : List String) :
    Answer settings (Configuration.awaitingIdl settings) operands
      (Invocation.ofCommandLine { settings, operands }) := by
  unfold Invocation.ofCommandLine
  cases help : settings.help with
  | true => exact .help help operands
  | false =>
    cases version : settings.version with
    | true => exact .version help version operands
    | false =>
      simp only [Bool.false_eq_true, if_false]
      by_cases one : operands.length = 1
      · obtain ⟨idl, rfl⟩ := List.length_eq_one_iff.mp one
        by_cases empty : idl = ""
        · subst empty
          exact .empty help version
        · have running : (Configuration.ofCommandLine { settings, operands := [idl] }).map
              Invocation.run =
              .ok (.run { Configuration.awaitingIdl settings with idl }) := by
            simp [Configuration.ofCommandLine, empty, Except.map, Configuration.awaitingIdl,
              Configuration.ofSettings, version]
          rw [running]
          exact .run help version empty
      · rw [Configuration.ofCommandLine_of_length_ne_one one]
        exact .count help version one

/-! ### Where the options end -/

/-- The pass leaves an ending as it is. -/
theorem Spelling.Layout.canonical_of_ending {ending operands : List String}
    (ends : Ending ending operands) :
    (Layout.ofTokens (ending.map Token.ofString)).canonical = ending.map Token.ofString := by
  cases ends with
  | nothing => rfl
  | dashes =>
    rw [List.map_cons, ofTokens_of_stops (stops_ofString_iff.mpr (Or.inr rfl))]
    rfl
  | operands plain others =>
    rw [List.map_cons, ofTokens_of_stops (stops_ofString_iff.mpr (Or.inl plain))]
    rfl

/-- Behind options in any spelling, an ending is its operands as they were written. -/
theorem ofArguments_of_ending {options : List String} {occurrences : List Setting}
    (complete : OptionSequence LooseToken options occurrences) {ending operands : List String}
    (ends : Ending ending operands) (program : Token) :
    Invocation.ofArguments (program :: (options ++ ending).map Token.ofString) =
      Invocation.ofCommandLine { settings := Settings.ofList occurrences, operands } := by
  rw [Invocation.ofArguments, List.map_append, Spelling.ofArguments_of_optionSequence complete,
    Layout.canonical_of_ending ends, Reading.ofTokens_of_ending ends]
  simp [Except.map, Reading.settings]

/-! ### Nothing behind the first operand -/

/-- The options in front of the first operand, or in front of two dashes alone, settle everything
but the number of operands and the text of a single one. However many tokens stand behind a first
operand, it does not matter which. -/
theorem ofArguments_of_operands {options : List String} {occurrences : List Setting}
    (complete : OptionSequence LooseToken options occurrences) (program : Token) :
    ∃ settings configuration,
      settings.Settles occurrences ∧ configuration.Holds settings ∧
      configuration.askVersion = false ∧
      (∀ operand, Plain operand → ∀ others,
        Answer settings configuration (operand :: others)
          (Invocation.ofArguments
            (program :: (options ++ operand :: others).map Token.ofString))) ∧
      (∀ operands,
        Answer settings configuration operands
          (Invocation.ofArguments (program :: (options ++ "--" :: operands).map Token.ofString))) ∧
      ∀ operand, Plain operand → ∀ others tokens : List String, others.length = tokens.length →
        Invocation.ofArguments (program :: (options ++ operand :: others).map Token.ofString) =
          Invocation.ofArguments
            (program :: (options ++ operand :: tokens).map Token.ofString) := by
  refine ⟨_, _, Settings.settles_ofList occurrences, Configuration.awaitingIdl_holds _, rfl,
    fun operand plain others => ?_, fun operands => ?_, fun operand plain others tokens same => ?_⟩
  · rw [ofArguments_of_ending complete (.operands plain others)]
    exact .ofCommandLine _ _
  · rw [ofArguments_of_ending complete (.dashes operands)]
    exact .ofCommandLine _ _
  · rw [ofArguments_of_ending complete (.operands plain others),
      ofArguments_of_ending complete (.operands plain tokens)]
    cases others with
    | nil => rw [List.length_eq_zero_iff.mp same.symm]
    | cons second rest =>
      exact Invocation.ofCommandLine_congr_length (by simp [same]) (by simp)

/-- Behind a lone dash, a question for help is an operand and two dashes are another. -/
theorem ofArguments_of_flags_behind_dash :
    OptionSequence LooseToken ["-verbose", "-ro", "dir"]
      [.switch .verbose true, .switch .recurse true, .parameter .output "dir"] ∧
    Plain "-" ∧
    Invocation.ofArguments
        (["thriftgen", "-verbose", "-ro", "dir", "-", "--help", "--"].map Token.ofString) =
      .error (.argumentCount 3) ∧
    Invocation.ofArguments
        (["thriftgen", "-verbose", "-ro", "dir", "-", "--help", "--"].map Token.ofString) =
      Invocation.ofArguments
        (["thriftgen", "-verbose", "-ro", "dir", "-", "--bogus", "x"].map Token.ofString) := by
  have verbose : LooseToken "-verbose" [.switch .verbose true] none :=
    .shortened (.switch .verbose)
  have cluster : LooseToken "-ro" [.switch .recurse true] (some .output) :=
    .plain (Scan.optionToken_iff.mpr ⟨by decide, rfl⟩) (by decide)
  have complete : OptionSequence LooseToken ["-verbose", "-ro", "dir"]
      [.switch .verbose true, .switch .recurse true, .parameter .output "dir"] :=
    .cons (.complete verbose) (OptionWriting.separate cluster (by decide)).sequence
  have plain : Plain "-" := by decide
  obtain ⟨settings, configuration, settled, -, -, answers, -, alike⟩ :=
    ofArguments_of_operands complete (Token.ofString "thriftgen")
  obtain rfl := Settings.settles_iff.mp settled
  refine ⟨complete, plain, ?_, alike "-" plain ["--help", "--"] ["--bogus", "x"] rfl⟩
  have answer := answers "-" plain ["--help", "--"]
  generalize Invocation.ofArguments _ = result at answer ⊢
  generalize spelled : ["-", "--help", "--"] = operands at answer
  cases answer with
  | help asked => cases asked
  | version noHelp asked => cases asked
  | count => rw [← spelled]; rfl
  | empty => simp at spelled
  | run => simp at spelled

end ThriftCommand
