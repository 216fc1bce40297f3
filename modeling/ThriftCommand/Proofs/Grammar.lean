/-
This file says what an option looks like on the command line, as a grammar that does not scan.
A token of flags either says everything by itself or leaves its last parameter to the next token,
which then must not look like a flag. A command line is a sequence of options and an ending: the
ending is empty, or opens with two dashes, or is the first operand with all that follows it.
-/

import ThriftCommand.Flag.Spelling
import ThriftCommand.Flag.Reading

namespace ThriftCommand

/-! ### Texts and letters -/

/-- The text is no flag where a flag may stand: a lone dash, or no dash in front. -/
def Plain (text : String) : Prop :=
  text = "-" ∨ text.toList.head? ≠ some '-'

instance (text : String) : Decidable (Plain text) :=
  inferInstanceAs (Decidable (_ ∨ _))

/-- The token is a flag where a flag may stand. -/
def Token.Flagged (token : Token) : Prop :=
  token.shape ≠ .operand ∧ token.shape ≠ .terminator

instance (token : Token) : Decidable token.Flagged :=
  inferInstanceAs (Decidable (_ ∧ _))

theorem toList_dash_append (text : String) : ("-" ++ text).toList = '-' :: text.toList := by
  simp

theorem toList_dashes_append (text : String) :
    ("--" ++ text).toList = '-' :: '-' :: text.toList := by
  simp

theorem toList_equals_append (text : String) : ("=" ++ text).toList = '=' :: text.toList := by
  simp

theorem toList_singleton_append (letter : Char) (text : String) :
    (String.singleton letter ++ text).toList = letter :: text.toList := by
  simp

/-- The letters are those of the switches, one for one. -/
def Switch.Lettered (switches : List Switch) (letters : String) : Prop :=
  switches.map Switch.letter? = letters.toList.map some

/-- Switches that are written without a word are on. -/
def Switch.turnedOn (switches : List Switch) : List Setting :=
  switches.map fun which => .switch which true

theorem Switch.turnedOn_append (first second : List Switch) :
    Switch.turnedOn (first ++ second) = Switch.turnedOn first ++ Switch.turnedOn second :=
  List.map_append

/-- The value that stands right behind a parameter's letter, where an equals sign may part them. -/
def attachedValue (text : String) : String :=
  match text.toList with
  | '=' :: value => String.ofList value
  | _ => text

theorem attachedValue_parted (value : String) : attachedValue ("=" ++ value) = value := by
  rw [attachedValue, toList_equals_append]
  exact String.ofList_toList

theorem attachedValue_unparted {text : String} (unparted : text.toList.head? ≠ some '=') :
    attachedValue text = text := by
  unfold attachedValue
  split
  · rename_i value parted
    rw [parted] at unparted
    exact absurd rfl unparted
  · rfl

/-! ### The grammar -/

/-- What may stand behind the bare switches of a cluster of letters, with the settings that it
writes and the parameter whose value it leaves to the next token. -/
inductive ClusterEnd : String → List Setting → Option Parameter → Prop
  | nothing : ClusterEnd "" [] none
  | word {which : Switch} {letter : Char} (bears : which.letter? = some letter) {word : String}
      {position : Bool} (known : Switch.position? word = some position) :
    ClusterEnd (String.singleton letter ++ "=" ++ word) [.switch which position] none
  | awaiting (which : Parameter) :
    ClusterEnd (String.singleton which.letter) [] (some which)
  | attached (which : Parameter) {text : String} (nonempty : text ≠ "") :
    ClusterEnd (String.singleton which.letter ++ text) [.parameter which (attachedValue text)] none

/-- A token of flags, with the settings that it writes and the parameter whose value it leaves to
the next token. -/
inductive OptionToken : String → List Setting → Option Parameter → Prop
  | switch (which : Switch) :
    OptionToken ("--" ++ which.name) [.switch which true] none
  | switchTo (which : Switch) {word : String} {position : Bool}
      (known : Switch.position? word = some position) :
    OptionToken ("--" ++ which.name ++ "=" ++ word) [.switch which position] none
  | parameter (which : Parameter) :
    OptionToken ("--" ++ which.name) [] (some which)
  | parameterTo (which : Parameter) (value : String) :
    OptionToken ("--" ++ which.name ++ "=" ++ value) [.parameter which value] none
  | cluster {switches : List Switch} {letters ending : String} {settings : List Setting}
      {awaiting : Option Parameter} (lettered : Switch.Lettered switches letters)
      (ends : ClusterEnd ending settings awaiting) (nonempty : letters ++ ending ≠ "") :
    OptionToken ("-" ++ letters ++ ending) (Switch.turnedOn switches ++ settings) awaiting

/-! ### Long flags behind a single dash -/

/-- The text is the name of a long flag behind a single dash, alone or with a value after an
equals sign. -/
def SingleDash (text : String) : Prop :=
  ∃ flag : Flag, text = "-" ++ flag.name ∨ ∃ value, text = "-" ++ flag.name ++ "=" ++ value

/-- A token of flags in any spelling. A long flag may lose one of its dashes, and what then looks
like letters is the long flag all the same. -/
inductive LooseToken : String → List Setting → Option Parameter → Prop
  | plain {token : String} {settings : List Setting} {awaiting : Option Parameter}
      (written : OptionToken token settings awaiting) (apart : ¬ SingleDash token) :
    LooseToken token settings awaiting
  | shortened {body : String} {settings : List Setting} {awaiting : Option Parameter}
      (written : OptionToken ("--" ++ body) settings awaiting) :
    LooseToken ("-" ++ body) settings awaiting

/-! ### Options, sequences and endings -/

section

variable (Spelled : String → List Setting → Option Parameter → Prop)

/-- An option with all its tokens, and the settings that it writes. -/
inductive OptionWriting : List String → List Setting → Prop
  | complete {token : String} {settings : List Setting} (written : Spelled token settings none) :
    OptionWriting [token] settings
  | separate {token value : String} {settings : List Setting} {which : Parameter}
      (written : Spelled token settings (some which)) (plain : Plain value) :
    OptionWriting [token, value] (settings ++ [.parameter which value])

/-- Options one after the other, and all settings that they write. -/
inductive OptionSequence : List String → List Setting → Prop
  | nil : OptionSequence [] []
  | cons {tokens rest : List String} {settings later : List Setting}
      (first : OptionWriting Spelled tokens settings) (others : OptionSequence rest later) :
    OptionSequence (tokens ++ rest) (settings ++ later)

end

/-- What may stand after the options, and the operands in it. -/
inductive Ending : List String → List String → Prop
  | nothing : Ending [] []
  | dashes (operands : List String) : Ending ("--" :: operands) operands
  | operands {first : String} (plain : Plain first) (others : List String) :
    Ending (first :: others) (first :: others)

/-- The tokens are options, which write these settings, and an ending with these operands. -/
def Derives (tokens : List String) (settings : List Setting) (operands : List String) : Prop :=
  ∃ options ending, tokens = options ++ ending ∧ OptionSequence OptionToken options settings ∧
    Ending ending operands

/-- One option is a sequence. -/
theorem OptionWriting.sequence {Spelled : String → List Setting → Option Parameter → Prop}
    {tokens : List String} {settings : List Setting}
    (written : OptionWriting Spelled tokens settings) :
    OptionSequence Spelled tokens settings := by
  have alone := OptionSequence.cons written .nil
  rwa [List.append_nil, List.append_nil] at alone

/-- Two sequences make one. -/
theorem OptionSequence.append {Spelled : String → List Setting → Option Parameter → Prop}
    {first second : List String} {settings later : List Setting}
    (before : OptionSequence Spelled first settings)
    (behind : OptionSequence Spelled second later) :
    OptionSequence Spelled (first ++ second) (settings ++ later) := by
  induction before with
  | nil => exact behind
  | cons option _ inductionHypothesis =>
    rw [List.append_assoc, List.append_assoc]
    exact .cons option inductionHypothesis

end ThriftCommand
