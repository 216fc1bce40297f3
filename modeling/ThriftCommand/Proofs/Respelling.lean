/-
This file proves that it does not matter how an option is spelled. A setting may be written with
one dash or two, with a letter, with its value attached or behind it, and letters may be joined to
a cluster or stand apart. Options in any spelling are read as what they settle and nothing more,
so one spelling can take the place of another in front of anything, and the answer stays the same
even where the command line is wrong.

There is one exception. A value that is joined to a parameter's letter can complete the name of a
long flag, and the token is then that flag. The content of the second half is that the exception
is real: behind any options there is a way to go on that tells the two apart.
-/

import ThriftCommand.Invocation
import ThriftCommand.Proofs.Canonical

namespace ThriftCommand

open Spelling

/-! ### The spellings -/

/-- One setting, in each of its spellings. -/
inductive Alternative : List String → Setting → Prop
  | long {dashes : String} (dashed : dashes = "-" ∨ dashes = "--") (which : Switch) :
    Alternative [dashes ++ which.name] (.switch which true)
  | letter {which : Switch} {letter : Char} (bears : which.letter? = some letter) :
    Alternative ["-" ++ String.singleton letter] (.switch which true)
  | longWord {dashes : String} (dashed : dashes = "-" ∨ dashes = "--") (which : Switch)
      {word : String} {position : Bool} (known : Switch.position? word = some position) :
    Alternative [dashes ++ which.name ++ "=" ++ word] (.switch which position)
  | letterWord {which : Switch} {letter : Char} (bears : which.letter? = some letter)
      {word : String} {position : Bool} (known : Switch.position? word = some position) :
    Alternative ["-" ++ String.singleton letter ++ "=" ++ word] (.switch which position)
  | longValue {dashes : String} (dashed : dashes = "-" ∨ dashes = "--") (which : Parameter)
      (value : String) :
    Alternative [dashes ++ which.name ++ "=" ++ value] (.parameter which value)
  | letterValue (which : Parameter) (value : String) :
    Alternative ["-" ++ String.singleton which.letter ++ "=" ++ value] (.parameter which value)
  | longSeparate {dashes : String} (dashed : dashes = "-" ∨ dashes = "--") (which : Parameter)
      {value : String} (plain : Plain value) :
    Alternative [dashes ++ which.name, value] (.parameter which value)
  | letterSeparate (which : Parameter) {value : String} (plain : Plain value) :
    Alternative ["-" ++ String.singleton which.letter, value] (.parameter which value)
  | letterJoined (which : Parameter) {value : String} (nonempty : value ≠ "")
      (unparted : value.toList.head? ≠ some '=')
      (apart : ¬ SingleDash ("-" ++ String.singleton which.letter ++ value)) :
    Alternative ["-" ++ String.singleton which.letter ++ value] (.parameter which value)

/-- Two ways to write the same: a setting in two of its spellings, or a cluster of letters and the
same letters in several tokens, of which the last one keeps what the cluster ends in. -/
inductive Respelling : List String → List String → Prop
  | setting {unit other : List String} {setting : Setting} (first : Alternative unit setting)
      (second : Alternative other setting) :
    Respelling unit other
  | cluster {groups more : List String} {last : String} {settings : List Setting}
      (switches : ∀ group ∈ groups, ∃ switches, switches ≠ [] ∧ Switch.Lettered switches group)
      (written : OptionWriting OptionToken (("-" ++ last) :: more) settings)
      (single : last.toList.head? ≠ some '-') (apart : ¬ SingleDash ("-" ++ last)) :
    Respelling (("-" ++ String.join groups ++ last) :: more)
      (groups.map ("-" ++ ·) ++ ("-" ++ last) :: more)

/-! ### Letters are no names -/

/-- A letter with another letter or an equals sign behind it, or nothing, is no long flag. -/
theorem not_singleDash_of_letters {text : String} {first : Char} {rest : List Char}
    (chars : text.toList = '-' :: first :: rest)
    (second : ∀ c, rest.head? = some c → c = '=' ∨ ∃ flag : Flag, flag.letter? = some c) :
    ¬ SingleDash text := by
  rw [← isSingleDash_iff, chars]
  intro single
  obtain ⟨flag, named⟩ := namesLong_iff.mp single
  obtain ⟨start, next, later, name, notEquals, notLetter⟩ := flag.name_second
  have opens : rest.head? = some next := by
    rcases named with named | ⟨value, named⟩
    · rw [name] at named
      rw [(List.cons.inj named).2]
      rfl
    · rw [name] at named
      rw [(List.cons.inj named).2]
      rfl
  rcases second next opens with equals | ⟨other, bears⟩
  · exact notEquals equals
  · rw [Flag.lettered?_of_letter? bears] at notLetter
    cases notLetter

/-- A cluster that begins with a switch is no long flag. -/
theorem not_singleDash_of_cluster {which : Switch} {switches : List Switch}
    {letters ending : String} {settings : List Setting} {awaiting : Option Parameter}
    (lettered : Switch.Lettered (which :: switches) letters)
    (ends : ClusterEnd ending settings awaiting) : ¬ SingleDash ("-" ++ letters ++ ending) := by
  obtain ⟨letter, others, spelled, -, behind⟩ := List.map_eq_cons_iff.mp lettered.symm
  have chars : ("-" ++ letters ++ ending).toList = '-' :: letter :: (others ++ ending.toList) := by
    simp [spelled]
  refine not_singleDash_of_letters chars fun c opens => Or.inr ?_
  have behindLettered : Switch.Lettered switches (String.ofList others) := by
    rw [Switch.Lettered, String.toList_ofList]
    exact behind.symm
  exact Scan.exists_flag_of_cluster behindLettered ends (by rwa [String.toList_ofList])

/-! ### Every spelling is an option -/

theorem looseToken_of_dashes {dashes : String} (dashed : dashes = "-" ∨ dashes = "--")
    {body : String} {settings : List Setting} {awaiting : Option Parameter}
    (written : OptionToken ("--" ++ body) settings awaiting) :
    LooseToken (dashes ++ body) settings awaiting := by
  rcases dashed with rfl | rfl
  · exact .shortened written
  · exact .plain written (not_singleDash_dashes body)

theorem optionToken_of_clusterEnd {ending : String} {settings : List Setting}
    {awaiting : Option Parameter} (ends : ClusterEnd ending settings awaiting)
    (nonempty : ending ≠ "") : OptionToken ("-" ++ ending) settings awaiting := by
  have noLetters : Switch.Lettered [] "" := rfl
  have written := OptionToken.cluster noLetters ends (by rwa [String.empty_append])
  rwa [String.append_empty] at written

theorem lettered_append_ne_empty {which : Switch} {switches : List Switch} {letters : String}
    (lettered : Switch.Lettered (which :: switches) letters) (rest : String) :
    letters ++ rest ≠ "" := fun empty => by
  obtain ⟨letter, others, spelled, -, -⟩ := List.map_eq_cons_iff.mp lettered.symm
  have noChars := congrArg String.toList empty
  simp [spelled] at noChars

/-- Bare switches make a token of their own. -/
theorem looseToken_of_lettered {switches : List Switch} {letters : String}
    (lettered : Switch.Lettered switches letters) (nonempty : switches ≠ []) :
    LooseToken ("-" ++ letters) (Switch.turnedOn switches) none := by
  cases switches with
  | nil => exact absurd rfl nonempty
  | cons which switches =>
    have written := OptionToken.cluster lettered .nothing (lettered_append_ne_empty lettered "")
    have apart := not_singleDash_of_cluster lettered .nothing
    rw [String.append_empty, List.append_nil] at written
    rw [String.append_empty] at apart
    exact .plain written apart

theorem singleton_append_ne_empty (letter : Char) (text : String) :
    String.singleton letter ++ text ≠ "" := fun empty => by
  have noChars := congrArg String.toList empty
  simp at noChars

/-- A letter with what stands behind an equals sign is an option. -/
theorem looseToken_of_letterEquals {letter : Char} {text : String} {settings : List Setting}
    {awaiting : Option Parameter}
    (ends : ClusterEnd (String.singleton letter ++ "=" ++ text) settings awaiting) :
    LooseToken ("-" ++ String.singleton letter ++ "=" ++ text) settings awaiting := by
  have nonempty : String.singleton letter ++ "=" ++ text ≠ "" := by
    rw [String.append_assoc]
    exact singleton_append_ne_empty letter ("=" ++ text)
  have written := optionToken_of_clusterEnd ends nonempty
  have chars : ("-" ++ String.singleton letter ++ "=" ++ text).toList =
      '-' :: letter :: '=' :: text.toList := by simp
  have apart := not_singleDash_of_letters chars fun c opens => Or.inl (Option.some.inj opens).symm
  simp only [← String.append_assoc] at written
  exact .plain written apart

/-- Every spelling of a setting is an option that writes it. -/
theorem Alternative.sequence {unit : List String} {setting : Setting}
    (alternative : Alternative unit setting) : OptionSequence LooseToken unit [setting] := by
  refine OptionWriting.sequence ?_
  cases alternative with
  | long dashed which => exact .complete (looseToken_of_dashes dashed (.switch which))
  | @letter which letter bears =>
    have lettered : Switch.Lettered [which] (String.singleton letter) := by
      rw [Switch.Lettered, String.toList_singleton]
      exact congrArg (fun found => [found]) bears
    exact .complete (looseToken_of_lettered lettered (List.cons_ne_nil which []))
  | @longWord dashes dashed which word position known =>
    have written := OptionToken.switchTo which known
    rw [String.append_assoc, String.append_assoc] at written ⊢
    exact .complete (looseToken_of_dashes dashed written)
  | letterWord bears known => exact .complete (looseToken_of_letterEquals (.word bears known))
  | longValue dashed which value =>
    have written := OptionToken.parameterTo which value
    rw [String.append_assoc, String.append_assoc] at written ⊢
    exact .complete (looseToken_of_dashes dashed written)
  | letterValue which value =>
    have ends := ClusterEnd.attached which (singleton_append_ne_empty '=' value)
    rw [← String.append_assoc] at ends
    have written := looseToken_of_letterEquals ends
    have parted : attachedValue (String.singleton '=' ++ value) = value :=
      attachedValue_parted value
    rw [parted] at written
    exact .complete written
  | longSeparate dashed which plain =>
    exact .separate (looseToken_of_dashes dashed (.parameter which)) plain
  | letterSeparate which plain =>
    have chars : ("-" ++ String.singleton which.letter).toList = ['-', which.letter] := by simp
    have apart := not_singleDash_of_letters chars fun c opens => by simp at opens
    have nonempty : String.singleton which.letter ≠ "" := by
      rw [← String.append_empty (s := String.singleton which.letter)]
      exact singleton_append_ne_empty which.letter ""
    have written := optionToken_of_clusterEnd (.awaiting which) nonempty
    exact .separate (LooseToken.plain written apart) plain
  | @letterJoined which value nonempty unparted apart =>
    have someText := singleton_append_ne_empty which.letter value
    have written := optionToken_of_clusterEnd (.attached which nonempty) someText
    rw [attachedValue_unparted unparted, ← String.append_assoc] at written
    exact .complete (.plain written apart)

/-! ### Clusters and their letters -/

/-- Behind a single dash, what the grammar derives is a cluster. -/
theorem exists_cluster_of_optionToken {body : String} {settings : List Setting}
    {awaiting : Option Parameter} (written : OptionToken ("-" ++ body) settings awaiting)
    (single : body.toList.head? ≠ some '-') :
    ∃ switches letters ending later, Switch.Lettered switches letters ∧
      ClusterEnd ending later awaiting ∧ body = letters ++ ending ∧
      settings = Switch.turnedOn switches ++ later := by
  have notLong (text : String) : "-" ++ body ≠ "--" ++ text := fun same => by
    have chars : body.toList = '-' :: text.toList := by
      simpa using congrArg String.toList same
    exact single (by rw [chars]; rfl)
  generalize spelled : "-" ++ body = token at written
  cases written with
  | switch which => exact absurd spelled (notLong _)
  | parameter which => exact absurd spelled (notLong _)
  | switchTo which known =>
    rw [String.append_assoc, String.append_assoc] at spelled
    exact absurd spelled (notLong _)
  | parameterTo which value =>
    rw [String.append_assoc, String.append_assoc] at spelled
    exact absurd spelled (notLong _)
  | @cluster switches letters ending later awaiting lettered ends nonempty =>
    refine ⟨switches, letters, ending, later, lettered, ends, ?_, rfl⟩
    rw [← String.toList_inj] at spelled ⊢
    simpa using spelled

/-- Letters in several tokens turn on the switches that they turn on in one. -/
theorem exists_lettered_of_groups {groups : List String}
    (switches : ∀ group ∈ groups, ∃ switches, switches ≠ [] ∧ Switch.Lettered switches group) :
    ∃ all, Switch.Lettered all (String.join groups) ∧
      OptionSequence LooseToken (groups.map ("-" ++ ·)) (Switch.turnedOn all) := by
  induction groups with
  | nil => exact ⟨[], by rw [String.join_nil]; rfl, .nil⟩
  | cons group groups inductionHypothesis =>
    obtain ⟨all, lettered, sequence⟩ :=
      inductionHypothesis fun other member => switches other (List.mem_cons_of_mem group member)
    obtain ⟨first, nonempty, firstLettered⟩ := switches group List.mem_cons_self
    refine ⟨first ++ all, ?_, ?_⟩
    · unfold Switch.Lettered at lettered firstLettered ⊢
      rw [List.map_append, lettered, firstLettered, String.join_cons, String.toList_append,
        List.map_append]
    · rw [Switch.turnedOn_append]
      exact .cons (.complete (looseToken_of_lettered firstLettered nonempty)) sequence

/-- Bare switches in front of a cluster make a longer one. -/
theorem looseToken_of_joined {switches : List Switch} {letters body : String}
    {settings : List Setting} {awaiting : Option Parameter}
    (lettered : Switch.Lettered switches letters)
    (written : OptionToken ("-" ++ body) settings awaiting)
    (single : body.toList.head? ≠ some '-') (apart : ¬ SingleDash ("-" ++ body)) :
    LooseToken ("-" ++ letters ++ body) (Switch.turnedOn switches ++ settings) awaiting := by
  cases switches with
  | nil =>
    have noChars : letters.toList = [] := List.map_eq_nil_iff.mp lettered.symm
    obtain rfl : letters = "" := String.toList_eq_nil_iff.mp noChars
    rw [String.append_empty]
    exact .plain written apart
  | cons which switches =>
    obtain ⟨others, behind, ending, later, behindLettered, ends, rfl, rfl⟩ :=
      exists_cluster_of_optionToken written single
    have allLettered : Switch.Lettered (which :: (switches ++ others)) (letters ++ behind) := by
      unfold Switch.Lettered at lettered behindLettered ⊢
      rw [String.toList_append, List.map_append, ← lettered, ← behindLettered, ← List.map_append]
      rfl
    have nonempty := lettered_append_ne_empty allLettered ending
    have joined := OptionToken.cluster allLettered ends nonempty
    have joinedApart := not_singleDash_of_cluster allLettered ends
    have turnedOn : Switch.turnedOn (which :: (switches ++ others)) =
        Switch.turnedOn (which :: switches) ++ Switch.turnedOn others :=
      Switch.turnedOn_append (which :: switches) others
    simp only [turnedOn, String.append_assoc, List.append_assoc] at joined joinedApart ⊢
    exact .plain joined joinedApart

/-- Both sides of a respelling are options with the same settings. -/
theorem Respelling.sequences {unit other : List String} (respelling : Respelling unit other) :
    ∃ settings, OptionSequence LooseToken unit settings ∧
      OptionSequence LooseToken other settings := by
  cases respelling with
  | setting first second => exact ⟨_, first.sequence, second.sequence⟩
  | @cluster groups more last settings switches written single apart =>
    obtain ⟨all, lettered, split⟩ := exists_lettered_of_groups switches
    cases written with
    | complete written =>
      have joined := looseToken_of_joined lettered written single apart
      exact ⟨_, (OptionWriting.complete joined).sequence,
        split.append (OptionWriting.complete (.plain written apart)).sequence⟩
    | separate written plain =>
      have joined := looseToken_of_joined lettered written single apart
      refine ⟨_, (OptionWriting.separate joined plain).sequence, ?_⟩
      rw [List.append_assoc]
      exact split.append (OptionWriting.separate (LooseToken.plain written apart) plain).sequence

/-! ### One spelling for another -/

/-- Options with the same settings can stand for each other in front of anything. -/
theorem ofArguments_of_sequences {options others : List String} {settings : List Setting}
    (written : OptionSequence LooseToken options settings)
    (otherwise : OptionSequence LooseToken others settings) (program : Token)
    (rest : List Token) :
    Invocation.ofArguments (program :: (options.map Token.ofString ++ rest)) =
      Invocation.ofArguments (program :: (others.map Token.ofString ++ rest)) := by
  rw [Invocation.ofArguments, Invocation.ofArguments,
    Spelling.ofArguments_of_optionSequence written,
    Spelling.ofArguments_of_optionSequence otherwise]

/-! ### The exception -/

/-- A value that completes the name of a long flag completes that of its own parameter. -/
theorem exists_completion {which : Parameter} {value : String}
    (single : SingleDash ("-" ++ String.singleton which.letter ++ value)) :
    "-" ++ String.singleton which.letter ++ value = "-" ++ which.name ∨
      ∃ given, "-" ++ String.singleton which.letter ++ value = "-" ++ which.name ++ "=" ++ given ∧
        value ≠ given := by
  obtain ⟨flag, spelled⟩ := single
  obtain ⟨first, second, rest, name, -⟩ := flag.name_second
  have begins : flag.name.toList.head? = some which.letter := by
    rcases spelled with spelled | ⟨given, spelled⟩
    · have chars := congrArg String.toList spelled
      simp [name] at chars
      simp [name, chars.1]
    · have chars := congrArg String.toList spelled
      simp [name] at chars
      simp [name, chars.1]
  obtain rfl := Flag.eq_of_head?_name begins
  rcases spelled with spelled | ⟨given, spelled⟩
  · exact Or.inl spelled
  · refine Or.inr ⟨given, spelled, fun same => ?_⟩
    have lengths := congrArg (List.length ∘ String.toList) spelled
    simp [name, same] at lengths
    omega

theorem ne_empty_of_completion {which : Parameter} {value : String}
    (single : SingleDash ("-" ++ String.singleton which.letter ++ value)) : value ≠ "" := by
  rintro rfl
  have chars : ("-" ++ String.singleton which.letter ++ "").toList = ['-', which.letter] := by simp
  exact not_singleDash_of_letters chars (fun c opens => by simp at opens) single

/-- Only the reader of flags complains of a flag. -/
theorem ofCommandLine_ne_flags (line : CommandLine) (error : FlagError) :
    Invocation.ofCommandLine line ≠ .error (.flags error) := by
  unfold Invocation.ofCommandLine
  split
  · simp
  · split
    · simp
    · unfold Configuration.ofCommandLine
      split
      · split
        · simp [Except.map]
        · simp [Except.map]
      · simp [Except.map]

/-- A long parameter at the end of a command line lacks its value. -/
theorem ofArguments_of_bare {before : List String} {earlier : List Setting}
    (complete : OptionSequence LooseToken before earlier) (program : Token) (which : Parameter) :
    Invocation.ofArguments
        (program :: ((before ++ ["-" ++ which.name]).map Token.ofString ++ [])) =
      .error (.flags (.missingValue which)) := by
  have read : Reading.ofTokens (Layout.ofTokens [Token.ofString ("-" ++ which.name)]).canonical =
      .error (.missingValue which) := by cases which <;> rfl
  rw [List.append_nil, List.map_append, List.map_singleton, Invocation.ofArguments,
    Spelling.ofArguments_of_optionSequence complete, read]
  rfl

/-- Options are the whole command line, and no flag is wrong. -/
theorem ofArguments_of_options {options : List String} {settings : List Setting}
    (written : OptionSequence LooseToken options settings) (program : Token) :
    Invocation.ofArguments (program :: (options.map Token.ofString ++ [])) =
      Invocation.ofCommandLine { settings := Settings.ofList settings, operands := [] } := by
  rw [Invocation.ofArguments, Spelling.ofArguments_of_optionSequence written]
  simp [Layout.ofTokens, Layout.canonical, Reading.ofTokens, Reading.settings, Except.map]

/-- What is settled by some options, a parameter, and switches that ask for a run. -/
def runningWith (earlier : List Setting) (which : Parameter) (value : String) : Settings :=
  Settings.ofList
    (earlier ++ [.parameter which value] ++ [.switch .help false, .switch .version false])

theorem runningWith_eq (earlier : List Setting) (which : Parameter) (value : String) :
    runningWith earlier which value =
      (((Settings.ofList earlier).apply (.parameter which value)).apply
        (.switch .help false)).apply (.switch .version false) := by
  simp [runningWith, Settings.ofList, List.foldl_append]

/-- Whatever the options before them ask for, these tokens make it a run. -/
theorem ofArguments_of_run {options : List String} {earlier : List Setting} {which : Parameter}
    {value : String}
    (written : OptionSequence LooseToken options (earlier ++ [.parameter which value]))
    (program : Token) :
    Invocation.ofArguments (program :: (options.map Token.ofString ++
        ["--help=false", "--version=false", "idl"].map Token.ofString)) =
      .ok (.run (Configuration.ofSettings (runningWith earlier which value) "idl")) := by
  have off : Switch.position? "false" = some false := rfl
  have help : Alternative ["--help=false"] (.switch .help false) :=
    .longWord (Or.inr rfl) .help off
  have version : Alternative ["--version=false"] (.switch .version false) :=
    .longWord (Or.inr rfl) .version off
  have running := written.append (help.sequence.append version.sequence)
  have read : Reading.ofTokens (Layout.ofTokens [Token.ofString "idl"]).canonical =
      .ok { units := [], operands := ["idl"] } := rfl
  have arguments : options.map Token.ofString ++
        ["--help=false", "--version=false", "idl"].map Token.ofString =
      (options ++ (["--help=false"] ++ ["--version=false"])).map Token.ofString ++
        [Token.ofString "idl"] := by simp
  have noHelp : (runningWith earlier which value).help = false := by
    rw [runningWith_eq]
    rfl
  have noVersion : (runningWith earlier which value).version = false := by
    rw [runningWith_eq]
    rfl
  rw [arguments, Invocation.ofArguments, Spelling.ofArguments_of_optionSequence running, read]
  show Invocation.ofCommandLine { settings := Settings.ofList (_ ++ []), operands := ["idl"] } = _
  rw [List.append_nil]
  show Invocation.ofCommandLine
    { settings := runningWith earlier which value, operands := ["idl"] } = _
  rw [Invocation.ofCommandLine]
  simp only [noHelp, noVersion]
  rfl

/-- Two runs with different values of a parameter are different runs. -/
theorem eq_of_runningWith {earlier : List Setting} {which : Parameter} {value given : String}
    (nonempty : value ≠ "")
    (same : Configuration.ofSettings (runningWith earlier which value) "idl" =
      Configuration.ofSettings (runningWith earlier which given) "idl") : value = given := by
  rw [runningWith_eq, runningWith_eq] at same
  cases which with
  | output =>
    have outputs := congrArg Configuration.output same
    simp only [Configuration.ofSettings, Settings.apply, Option.filter_some] at outputs
    rw [if_pos (by simpa using nonempty)] at outputs
    split at outputs
    · exact Option.some.inj outputs
    · cases outputs
  | includeDir =>
    have includes := congrArg (Occurrences.toList ∘ Configuration.includes) same
    simpa [Configuration.ofSettings, Occurrences.toList_ofList, Settings.apply] using includes
  | target =>
    have targets := congrArg (Occurrences.toList ∘ Configuration.targets) same
    simpa [Configuration.ofSettings, Occurrences.toList_ofList, Settings.apply] using targets
  | plugin =>
    have plugins := congrArg (Occurrences.toList ∘ Configuration.plugins) same
    simpa [Configuration.ofSettings, Occurrences.toList_ofList, Settings.apply] using plugins

/-- Whatever follows, the answer does not depend on how the options before it are spelled. The one
exception is a value that completes the name of a long flag when it is joined to its parameter's
letter. Some way to go on tells that token from whatever else writes the same settings. -/
theorem ofArguments_respelled (program : Token) (before : List String) (earlier : List Setting)
    (complete : OptionSequence LooseToken before earlier) :
    (∀ unit other, Respelling unit other → ∀ rest,
      Invocation.ofArguments (program :: ((before ++ unit).map Token.ofString ++ rest)) =
        Invocation.ofArguments (program :: ((before ++ other).map Token.ofString ++ rest))) ∧
    ∀ (which : Parameter) (value : String),
      SingleDash ("-" ++ String.singleton which.letter ++ value) →
      ∀ other, OptionSequence LooseToken other (earlier ++ [.parameter which value]) →
        ∃ rest : List String,
          Invocation.ofArguments (program :: ((before ++
              ["-" ++ String.singleton which.letter ++ value]).map Token.ofString ++
                rest.map Token.ofString)) ≠
            Invocation.ofArguments
              (program :: (other.map Token.ofString ++ rest.map Token.ofString)) := by
  refine ⟨fun unit other respelling rest => ?_, fun which value single other written => ?_⟩
  · obtain ⟨settings, unitWritten, otherWritten⟩ := respelling.sequences
    exact ofArguments_of_sequences (complete.append unitWritten) (complete.append otherWritten)
      program rest
  · rcases exists_completion single with bare | ⟨given, valued, different⟩
    · refine ⟨[], fun same => ?_⟩
      rw [bare, List.map_nil, ofArguments_of_bare complete, ofArguments_of_options written] at same
      exact ofCommandLine_ne_flags _ _ same.symm
    · refine ⟨["--help=false", "--version=false", "idl"], fun same => ?_⟩
      have short := complete.append (Alternative.longValue (Or.inl rfl) which given).sequence
      rw [valued, ofArguments_of_run short, ofArguments_of_run written] at same
      have runs := Invocation.run.inj (Except.ok.inj same)
      exact different (eq_of_runningWith (ne_empty_of_completion single) runs.symm)

/-- A cluster that ends in a value comes apart into its letters in front of a wrong flag, and one
that ends in the rest of a name does not. -/
theorem ofArguments_respelled_clusters :
    Invocation.ofArguments (["thriftgen", "-v", "-rqodir", "--bogus"].map Token.ofString) =
      Invocation.ofArguments
        (["thriftgen", "-v", "-r", "-q", "-odir", "--bogus"].map Token.ofString) ∧
    ∃ rest : List String,
      Invocation.ofArguments
          (["thriftgen", "-v", "-out"].map Token.ofString ++ rest.map Token.ofString) ≠
        Invocation.ofArguments
          (["thriftgen", "-vout"].map Token.ofString ++ rest.map Token.ofString) := by
  have verbose : OptionSequence LooseToken ["-v"] [.switch .verbose true] :=
    (OptionWriting.complete (.plain (Scan.optionToken_iff.mpr ⟨by decide, rfl⟩)
      (by decide))).sequence
  have switches : ∀ group ∈ ["r", "q"],
      ∃ switches, switches ≠ [] ∧ Switch.Lettered switches group := by
    intro group member
    rcases List.mem_cons.mp member with rfl | member
    · exact ⟨[.recurse], List.cons_ne_nil _ _, rfl⟩
    · obtain rfl := List.mem_singleton.mp member
      exact ⟨[.quiet], List.cons_ne_nil _ _, rfl⟩
  have directory : OptionToken "-odir" [.parameter .output "dir"] none :=
    Scan.optionToken_iff.mpr ⟨by decide, rfl⟩
  have cluster : Respelling ["-rqodir"] ["-r", "-q", "-odir"] :=
    @Respelling.cluster ["r", "q"] [] "odir" _ switches (.complete directory) (by decide)
      (by decide)
  have joined : OptionSequence LooseToken ["-vout"]
      [.switch .verbose true, .parameter .output "ut"] :=
    (OptionWriting.complete (.plain (Scan.optionToken_iff.mpr ⟨by decide, rfl⟩)
      (by decide))).sequence
  obtain ⟨equal, different⟩ :=
    ofArguments_respelled (Token.ofString "thriftgen") ["-v"] [.switch .verbose true] verbose
  exact ⟨equal ["-rqodir"] ["-r", "-q", "-odir"] cluster [Token.ofString "--bogus"],
    different .output "ut" ⟨.parameter .output, Or.inl rfl⟩ ["-vout"] joined⟩

end ThriftCommand
