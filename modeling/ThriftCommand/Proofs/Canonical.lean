/-
This file follows the pass that gives every long flag its second dash. The pass walks the tokens
on its own: it decides by itself which token is a flag, which one is a value to be left alone and
where the operands begin. The content here is that on options in any spelling it decides as the
grammar does. It takes the next token exactly where the grammar leaves a value to it, so it turns
a sequence of options into the sequence of the same settings in the spelling that the reader
knows, and leaves what follows to be looked at in the same way.
-/

import ThriftCommand.Proofs.Acceptance

namespace ThriftCommand.Spelling

open Token

/-! ### Long flags behind a single dash -/

theorem namesLong_iff {chars : List Char} :
    namesLong chars = true ↔
      ∃ flag : Flag, chars = flag.name.toList ∨
        ∃ value, chars = flag.name.toList ++ '=' :: value := by
  unfold namesLong
  constructor
  · intro named
    obtain ⟨flag, found⟩ := Option.isSome_iff_exists.mp named
    refine ⟨flag, ?_⟩
    cases cut : Text.splitFirst '=' chars with
    | mk name value =>
      rw [cut] at found
      have spelled := Flag.name_of_named? found
      cases value with
      | none => exact Or.inl ((Text.eq_of_splitFirst_none _ cut).trans spelled.symm)
      | some value => exact Or.inr ⟨value, by rw [Text.eq_of_splitFirst_some _ cut, spelled]⟩
  · rintro ⟨flag, rfl | ⟨value, rfl⟩⟩
    · rw [Text.splitFirst_of_notMem _ flag.equals_notMem_name, Flag.named?_name]
      rfl
    · rw [Text.splitFirst_append _ flag.equals_notMem_name, Flag.named?_name]
      rfl

theorem isSingleDash_iff {text : String} :
    isSingleDash text.toList = true ↔ SingleDash text := by
  constructor
  · intro single
    cases chars : text.toList with
    | nil => simp [chars, isSingleDash] at single
    | cons first body =>
      by_cases dash : first = '-'
      · subst dash
        rw [chars] at single
        obtain ⟨flag, named | ⟨value, named⟩⟩ := namesLong_iff.mp single
        · refine ⟨flag, Or.inl ?_⟩
          rw [← String.toList_inj, chars, named]
          simp
        · refine ⟨flag, Or.inr ⟨String.ofList value, ?_⟩⟩
          rw [← String.toList_inj, chars, named]
          simp
      · simp [chars, isSingleDash, dash] at single
  · rintro ⟨flag, rfl | ⟨value, rfl⟩⟩
    · rw [toList_dash_append]
      exact namesLong_iff.mpr ⟨flag, Or.inl rfl⟩
    · have chars : ("-" ++ flag.name ++ "=" ++ value).toList =
          '-' :: (flag.name.toList ++ '=' :: value.toList) := by simp
      rw [chars]
      exact namesLong_iff.mpr ⟨flag, Or.inr ⟨_, rfl⟩⟩

instance (text : String) : Decidable (SingleDash text) :=
  decidable_of_iff _ isSingleDash_iff

/-- Two dashes are not one dash and a name. -/
theorem not_singleDash_dashes (text : String) : ¬ SingleDash ("--" ++ text) := by
  rw [← isSingleDash_iff]
  intro single
  rw [toList_dashes_append] at single
  obtain ⟨flag, named⟩ := namesLong_iff.mp single
  obtain ⟨first, rest, name, notDash⟩ := flag.name_eq_cons
  rcases named with named | ⟨value, named⟩
  · rw [name] at named
    exact notDash (List.cons.inj named).1.symm
  · rw [name, List.cons_append] at named
    exact notDash (List.cons.inj named).1.symm

/-- A long flag behind a single dash has lost one of its dashes. -/
theorem exists_body_of_singleDash {text : String} (single : SingleDash text) :
    ∃ body, text = "-" ++ body := by
  obtain ⟨flag, rfl | ⟨value, rfl⟩⟩ := single
  · exact ⟨flag.name, rfl⟩
  · exact ⟨flag.name ++ "=" ++ value, by simp only [String.append_assoc]⟩

/-- With its second dash a long flag no longer stands behind a single one. -/
theorem not_singleDash_dashed {text : String} (single : SingleDash text) :
    ¬ SingleDash ("-" ++ text) := by
  obtain ⟨body, rfl⟩ := exists_body_of_singleDash single
  rw [← String.append_assoc]
  exact not_singleDash_dashes body

theorem canonical_of_singleDash {text : String} (single : SingleDash text) :
    canonical (ofString text) = ofString ("-" ++ text) := by
  unfold canonical
  rw [ofString, chars?_ofChars]
  simp only [isSingleDash_iff.mpr single, if_true]
  rw [ofString, toList_dash_append]
  rfl

theorem canonical_of_not_singleDash {text : String} (apart : ¬ SingleDash text) :
    canonical (ofString text) = ofString text := by
  unfold canonical
  rw [ofString, chars?_ofChars]
  simp only [if_neg fun single => apart (isSingleDash_iff.mp single)]

/-- What has lost one of its dashes is the name of a long flag behind the other. -/
theorem singleDash_of_shortened {body : String} {settings : List Setting}
    {awaiting : Option Parameter} (written : OptionToken ("--" ++ body) settings awaiting) :
    SingleDash ("-" ++ body) := by
  obtain ⟨⟨notOperand, notTerminator⟩, scanned⟩ := Scan.optionToken_iff.mp written
  unfold Scan.ofToken at scanned
  unfold ofString at notOperand notTerminator scanned
  rw [toList_dashes_append] at notTerminator scanned
  rw [← isSingleDash_iff, toList_dash_append]
  cases chars : body.toList with
  | nil => exact absurd (by rw [chars]; rfl) notTerminator
  | cons c rest =>
    rw [chars, shape_long] at scanned
    exact namesLong_iff.mpr (Scan.exists_name_of_ofLong scanned)

/-- A long flag behind a single dash looks like letters. -/
theorem flagged_of_singleDash {text : String} (single : SingleDash text) :
    (ofString text).Flagged := by
  obtain ⟨flag, spelled⟩ := single
  obtain ⟨first, rest, name, notDash⟩ := flag.name_eq_cons
  have chars : ∃ later, text.toList = '-' :: first :: later := by
    rcases spelled with rfl | ⟨value, rfl⟩
    · exact ⟨rest, by simp [name]⟩
    · exact ⟨rest ++ '=' :: value.toList, by simp [name]⟩
  obtain ⟨later, chars⟩ := chars
  rw [ofString, chars]
  exact (Scan.ofToken_of_letters (shape_letters notDash later)).1

/-- The pass gives a token of flags the spelling that the reader knows. -/
theorem canonical_of_looseToken {token : String} {settings : List Setting}
    {awaiting : Option Parameter} (written : LooseToken token settings awaiting) :
    ∃ text, canonical (ofString token) = ofString text ∧ OptionToken text settings awaiting := by
  cases written with
  | plain written apart => exact ⟨token, canonical_of_not_singleDash apart, written⟩
  | @shortened body _ _ written =>
    refine ⟨"--" ++ body, ?_, written⟩
    rw [canonical_of_singleDash (singleDash_of_shortened written), ← String.append_assoc]
    rfl

theorem flagged_of_looseToken {token : String} {settings : List Setting}
    {awaiting : Option Parameter} (written : LooseToken token settings awaiting) :
    (ofString token).Flagged := by
  cases written with
  | plain written => exact (Scan.optionToken_iff.mp written).1
  | shortened written => exact flagged_of_singleDash (singleDash_of_shortened written)

/-! ### Values in the next token -/

theorem isParameterLetter_iff {letter : Char} :
    isParameterLetter letter = true ↔ ∃ which : Parameter, which.letter = letter := by
  unfold isParameterLetter
  rw [List.any_eq_true]
  constructor
  · rintro ⟨which, -, bears⟩
    exact ⟨which, by simpa using bears⟩
  · rintro ⟨which, bears⟩
    exact ⟨which, by cases which <;> decide, by simpa using bears⟩

/-- The letter of a switch is not that of a parameter. -/
theorem isParameterLetter_of_switch {which : Switch} {letter : Char}
    (bears : which.letter? = some letter) : isParameterLetter letter = false := by
  rw [← Bool.not_eq_true, isParameterLetter_iff]
  rintro ⟨parameter, rfl⟩
  have switchBears : (Flag.switch which).letter? = some parameter.letter := bears
  have parameterBears : (Flag.parameter parameter).letter? = some parameter.letter := rfl
  have found := Flag.lettered?_of_letter? switchBears
  rw [Flag.lettered?_of_letter? parameterBears] at found
  cases found

theorem isParameterLetter_equals : isParameterLetter '=' = false := by
  decide

/-- No word for a position holds the letter of a parameter at its end. -/
theorem endsAtParameter_word {word : String} {position : Bool}
    (known : Switch.position? word = some position) : endsAtParameter word.toList = false := by
  have words : ∀ word ∈ Switch.onWords ++ Switch.offWords,
      endsAtParameter word.toList = false := by decide
  refine words word (List.mem_append.mpr ?_)
  unfold Switch.position? at known
  split at known
  · exact Or.inl ‹_›
  · split at known
    · exact Or.inr ‹_›
    · cases known

theorem endsAtParameter_turnedOn {switches : List Switch} {letters : List Char}
    (lettered : switches.map Switch.letter? = letters.map some) (rest : List Char) :
    endsAtParameter (letters ++ rest) = endsAtParameter rest := by
  induction switches generalizing letters with
  | nil =>
    obtain rfl : letters = [] := List.map_eq_nil_iff.mp lettered.symm
    rfl
  | cons which switches inductionHypothesis =>
    obtain ⟨letter, others, rfl, bears, lettered⟩ := List.map_eq_cons_iff.mp lettered.symm
    rw [List.cons_append, endsAtParameter, isParameterLetter_of_switch bears.symm]
    exact inductionHypothesis lettered.symm

theorem endsAtParameter_clusterEnd {ending : String} {settings : List Setting}
    {awaiting : Option Parameter} (ends : ClusterEnd ending settings awaiting) :
    endsAtParameter ending.toList = awaiting.isSome := by
  cases ends with
  | nothing => rfl
  | @word which letter bears word position known =>
    rw [String.append_assoc, toList_singleton_append, toList_equals_append, endsAtParameter,
      isParameterLetter_of_switch bears, if_neg Bool.false_ne_true, endsAtParameter,
      isParameterLetter_equals, if_neg Bool.false_ne_true, endsAtParameter_word known]
    rfl
  | awaiting which =>
    rw [String.toList_singleton, endsAtParameter,
      if_pos (isParameterLetter_iff.mpr ⟨which, rfl⟩)]
    rfl
  | @attached which text nonempty =>
    rw [toList_singleton_append, endsAtParameter, if_pos (isParameterLetter_iff.mpr ⟨which, rfl⟩)]
    simpa using nonempty

theorem takesNext_valued (name value : String) :
    takesNext ("--" ++ name ++ "=" ++ value).toList = false := by
  have chars : ("--" ++ name ++ "=" ++ value).toList =
      '-' :: '-' :: (name.toList ++ '=' :: value.toList) := by simp
  rw [chars, takesNext, List.any_eq_false]
  intro which _ same
  have absent := Flag.equals_notMem_name (.parameter which)
  have named : (Flag.parameter which).name.toList = name.toList ++ '=' :: value.toList :=
    of_decide_eq_true same
  rw [named] at absent
  exact absent (by simp)

theorem takesNext_letters {first : Char} (single : first ≠ '-') (rest : List Char) :
    takesNext ('-' :: first :: rest) = endsAtParameter (first :: rest) := by
  simp [takesNext, single]

/-- The pass takes the next token exactly where the grammar leaves a value to it. -/
theorem takesNext_of_optionToken {token : String} {settings : List Setting}
    {awaiting : Option Parameter} (written : OptionToken token settings awaiting) :
    takesNext token.toList = awaiting.isSome := by
  cases written with
  | switch which => cases which <;> decide
  | parameter which => cases which <;> decide
  | switchTo which known => exact takesNext_valued which.name _
  | parameterTo which value => exact takesNext_valued which.name value
  | @cluster switches letters ending settings awaiting lettered ends nonempty =>
    obtain ⟨first, rest, body, single⟩ := Scan.exists_cons_of_cluster lettered ends nonempty
    rw [String.append_assoc, toList_dash_append, String.toList_append, body,
      takesNext_letters single, ← body, endsAtParameter_turnedOn lettered,
      endsAtParameter_clusterEnd ends]

theorem awaitsValue_of_optionToken {token : Token} {text : String}
    (spelled : canonical token = ofString text) {settings : List Setting}
    {awaiting : Option Parameter} (written : OptionToken text settings awaiting) :
    awaitsValue token = awaiting.isSome := by
  unfold awaitsValue
  rw [spelled, ofString, chars?_ofChars]
  exact takesNext_of_optionToken written

/-! ### Places -/

theorem stops_eq_false {token : Token} (flagged : token.Flagged) : stops token = false := by
  obtain ⟨notOperand, notTerminator⟩ := flagged
  simp [stops, notOperand, notTerminator]

theorem stops_ofString_iff {text : String} :
    stops (ofString text) = true ↔ Plain text ∨ text = "--" := by
  unfold stops
  rw [← shape_ofString_eq_operand_iff, ← shape_ofString_eq_terminator_iff]
  rw [ofString, chars?_ofChars, Option.isSome_some, Bool.true_and, Bool.or_eq_true,
    decide_eq_true_iff, decide_eq_true_iff]

namespace Layout

theorem ofTokens_of_stops {token : Token} (stopped : stops token = true) (rest : List Token) :
    ofTokens (token :: rest) = { places := [], rest := token :: rest } := by
  rw [ofTokens.eq_def]
  simp only [stopped, if_true]

theorem ofTokens_complete {token : Token} (continued : stops token = false)
    (complete : awaitsValue token = false) (rest : List Token) :
    ofTokens (token :: rest) = (ofTokens rest).after { token } := by
  rw [ofTokens.eq_def]
  simp only [continued, complete, Bool.false_eq_true, if_false]

theorem ofTokens_separate {token : Token} (continued : stops token = false)
    (awaiting : awaitsValue token = true) (value : Token) (later : List Token) :
    ofTokens (token :: value :: later) = (ofTokens later).after { token, value := some value } := by
  rw [ofTokens.eq_def]
  simp only [continued, awaiting, Bool.false_eq_true, if_false, if_true]

/-- The last token has a place to itself, whether it awaits a value or not. -/
theorem ofTokens_last {token : Token} (continued : stops token = false) :
    ofTokens [token] = { places := [{ token }], rest := [] } := by
  rw [ofTokens.eq_def]
  simp only [continued, Bool.false_eq_true, if_false]
  cases awaitsValue token <;> rfl

theorem canonical_after (place : Place) (layout : Layout) :
    (layout.after place).canonical =
      Spelling.canonical place.token :: (place.value.toList ++ layout.canonical) := by
  simp [Layout.canonical, Layout.after]

/-- The pass turns one option into the same option as the reader knows it. -/
theorem canonical_of_optionWriting {tokens : List String} {settings : List Setting}
    (written : OptionWriting LooseToken tokens settings) :
    ∃ spelled, OptionWriting OptionToken spelled settings ∧ ∀ rest,
      (ofTokens (tokens.map ofString ++ rest)).canonical =
        spelled.map ofString ++ (ofTokens rest).canonical := by
  cases written with
  | @complete token _ written =>
    obtain ⟨text, spelled, canonicalWritten⟩ := canonical_of_looseToken written
    have continued := stops_eq_false (flagged_of_looseToken written)
    have complete := awaitsValue_of_optionToken spelled canonicalWritten
    refine ⟨[text], .complete canonicalWritten, fun rest => ?_⟩
    rw [List.map_singleton, List.singleton_append, ofTokens_complete continued complete,
      canonical_after, spelled]
    rfl
  | @separate token value _ which written plain =>
    obtain ⟨text, spelled, canonicalWritten⟩ := canonical_of_looseToken written
    have continued := stops_eq_false (flagged_of_looseToken written)
    have awaiting := awaitsValue_of_optionToken spelled canonicalWritten
    refine ⟨[text, value], .separate canonicalWritten plain, fun rest => ?_⟩
    rw [List.map_cons, List.map_singleton, List.cons_append, List.singleton_append,
      ofTokens_separate continued awaiting, canonical_after, spelled]
    rfl

/-- The pass turns options into the same options as the reader knows them, and goes on behind
them as if nothing stood before. -/
theorem canonical_of_optionSequence {tokens : List String} {settings : List Setting}
    (written : OptionSequence LooseToken tokens settings) :
    ∃ spelled, OptionSequence OptionToken spelled settings ∧ ∀ rest,
      (ofTokens (tokens.map ofString ++ rest)).canonical =
        spelled.map ofString ++ (ofTokens rest).canonical := by
  induction written with
  | nil => exact ⟨[], .nil, fun rest => rfl⟩
  | @cons tokens others settings later first _ inductionHypothesis =>
    obtain ⟨unit, unitWritten, step⟩ := canonical_of_optionWriting first
    obtain ⟨spelled, sequence, run⟩ := inductionHypothesis
    refine ⟨unit ++ spelled, .cons unitWritten sequence, fun rest => ?_⟩
    rw [List.map_append, List.append_assoc, step, run, List.map_append, List.append_assoc]

end Layout

/-- Options in any spelling settle what they write, and what follows is read as if it stood at
the front. -/
theorem ofArguments_of_optionSequence {options : List String} {settings : List Setting}
    (written : OptionSequence LooseToken options settings) (program : Token)
    (rest : List Token) :
    CommandLine.ofArguments (canonicalArguments (program :: (options.map ofString ++ rest))) =
      (Reading.ofTokens (Layout.ofTokens rest).canonical).map fun reading =>
        { settings := Settings.ofList (settings ++ reading.settings)
          operands := reading.operands } := by
  obtain ⟨spelled, sequence, passed⟩ := Layout.canonical_of_optionSequence written
  obtain ⟨units, rfl, run⟩ := Reading.ofTokens_of_optionSequence sequence
  rw [CommandLine.ofArguments, canonicalArguments, List.tail_cons, passed, run]
  cases Reading.ofTokens (Layout.ofTokens rest).canonical with
  | error error => rfl
  | ok reading =>
    simp [Except.map, Reading.settings]

end ThriftCommand.Spelling
