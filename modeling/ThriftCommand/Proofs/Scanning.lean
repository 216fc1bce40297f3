/-
This file proves that reading one token of flags and deriving it from the grammar are the same: a
token scans without an error exactly when it is written as the grammar says, and the scan then
holds the settings and the waiting parameter of the derivation.

Long flags are cut at the first equals sign, which no name holds. Letters are read one by one, and
no letter is an equals sign, so a word or a value begins exactly where the grammar puts it.
-/

import ThriftCommand.Proofs.Grammar

namespace ThriftCommand

/-- A result that was changed on success is a success only if it was one. -/
theorem map_eq_ok_iff {Error First Second : Type} {change : First → Second}
    {result : Except Error First} {value : Second} :
    result.map change = .ok value ↔ ∃ before, result = .ok before ∧ change before = value := by
  cases result with
  | error error => simp [Except.map]
  | ok before => simp [Except.map]

/-! ### What a text looks like where a flag may stand -/

theorem shape_ofString_eq_operand_iff {text : String} :
    (Token.ofString text).shape = .operand ↔ Plain text := by
  unfold Plain Token.ofString
  rw [← String.toList_inj]
  rcases Token.shape_ofChars_cases text.toList with ⟨shape, plain⟩ | ⟨shape, dashes⟩ |
    ⟨c, rest, shape, long⟩ | ⟨c, rest, shape, letters, single⟩
  · simpa [shape] using plain
  · rw [shape]
    simp [dashes]
  · rw [shape]
    simp [long]
  · rw [shape]
    simp [letters]

theorem shape_ofString_eq_terminator_iff {text : String} :
    (Token.ofString text).shape = .terminator ↔ text = "--" := by
  unfold Token.ofString
  rw [← String.toList_inj]
  rcases Token.shape_ofChars_cases text.toList with ⟨shape, plain⟩ | ⟨shape, dashes⟩ |
    ⟨c, rest, shape, long⟩ | ⟨c, rest, shape, letters, single⟩
  · rw [shape]
    refine iff_of_false (by simp) fun dashes => ?_
    rcases plain with plain | plain <;> simp [dashes] at plain
  · rw [shape]
    simp [dashes]
  · rw [shape]
    simp [long]
  · rw [shape]
    simp [letters, single]

namespace Scan

open Token

/-! ### One flag -/

theorem longFlag_eq_ok_iff {name : Token} {flag : Flag} :
    longFlag name = .ok flag ↔ name = ofChars flag.name.toList := by
  unfold longFlag
  constructor
  · intro named
    split at named
    · cases named
    · rename_i found
      obtain ⟨chars, decoded, found⟩ := Option.bind_eq_some_iff.mp found
      cases named
      rw [chars?_eq_some_iff.mp decoded, Flag.name_of_named? found]
  · rintro rfl
    rw [chars?_ofChars, Option.bind_some, Flag.named?_name]

theorem letterFlag_eq_ok_iff {letter : Char} {rest : Token} {flag : Flag} :
    letterFlag (.char letter) rest = .ok flag ↔ flag.letter? = some letter := by
  unfold letterFlag
  constructor
  · intro lettered
    simp only at lettered
    split at lettered
    · cases lettered
    · rename_i found
      cases lettered
      exact Flag.letter?_of_lettered? found
  · intro bears
    simp only [Flag.lettered?_of_letter? bears]

/-! ### Words and values -/

theorem switchTo_eq_ok_iff {which : Switch} {word : List Char} {setting : Setting} :
    switchTo which (ofChars word) = .ok setting ↔
      ∃ position, Switch.position? (String.ofList word) = some position ∧
        setting = .switch which position := by
  unfold switchTo text?
  rw [chars?_ofChars, Option.map_some]
  cases known : Switch.position? (String.ofList word) with
  | none => simp [known]
  | some position => simp [known, eq_comm]

theorem parameterTo_ofChars (which : Parameter) (value : List Char) :
    parameterTo which (ofChars value) = .ok (.parameter which (String.ofList value)) := by
  unfold parameterTo text?
  rw [chars?_ofChars, Option.map_some]

theorem ending_eq_ok_iff {setting : Except FlagError Setting} {scan : Scan} :
    ending setting = .ok scan ↔
      ∃ settled, setting = .ok settled ∧ scan = { settings := [settled] } := by
  unfold ending
  rw [map_eq_ok_iff]
  simp only [eq_comm]

/-! ### Long tokens -/

theorem ofLong_bare (flag : Flag) :
    ofLong (ofChars flag.name.toList) =
      match flag with
      | .switch which => .ok { settings := [.switch which true] }
      | .parameter which => .ok { settings := [], awaiting := some which } := by
  have absent : Glyph.char '=' ∉ ofChars flag.name.toList := fun member =>
    flag.equals_notMem_name (by simpa [ofChars] using member)
  unfold ofLong
  rw [Text.splitFirst_of_notMem _ absent]
  simp only [longFlag_eq_ok_iff.mpr rfl]
  cases flag <;> rfl

theorem ofLong_valued (flag : Flag) (value : List Char) :
    ofLong (ofChars (flag.name.toList ++ '=' :: value)) =
      match flag with
      | .switch which => ending (switchTo which (ofChars value))
      | .parameter which => ending (parameterTo which (ofChars value)) := by
  have absent : Glyph.char '=' ∉ ofChars flag.name.toList := fun member =>
    flag.equals_notMem_name (by simpa [ofChars] using member)
  have cut : Text.splitFirst (.char '=') (ofChars (flag.name.toList ++ '=' :: value)) =
      (ofChars flag.name.toList, some (ofChars value)) := by
    rw [ofChars_append]
    exact Text.splitFirst_append _ absent _
  unfold ofLong
  rw [cut]
  simp only [longFlag_eq_ok_iff.mpr rfl]
  cases flag <;> rfl

/-- A long token that scans opens with the name of a flag. -/
theorem exists_name_of_ofLong {body : List Char} {scan : Scan}
    (scanned : ofLong (ofChars body) = .ok scan) :
    ∃ flag : Flag, body = flag.name.toList ∨
      ∃ value, body = flag.name.toList ++ '=' :: value := by
  unfold ofLong at scanned
  cases cut : Text.splitFirst (.char '=') (ofChars body) with
  | mk name value =>
    cases named : longFlag name with
    | error error => simp [cut, named] at scanned
    | ok flag =>
      have nameChars := longFlag_eq_ok_iff.mp named
      refine ⟨flag, ?_⟩
      cases value with
      | none =>
        have whole := Text.eq_of_splitFirst_none _ cut
        exact Or.inl (ofChars_inj.mp (whole.trans nameChars))
      | some value =>
        have whole := Text.eq_of_splitFirst_some _ cut
        obtain ⟨first, rest, rfl, firstChars, restChars⟩ := List.map_eq_append_iff.mp whole
        obtain ⟨equals, word, rfl, equalsChar, -⟩ := List.map_eq_cons_iff.mp restChars
        have same : first = flag.name.toList := ofChars_inj.mp (firstChars.trans nameChars)
        exact Or.inr ⟨word, by rw [same, Glyph.char.inj equalsChar]⟩

/-- What follows two dashes scans only where the grammar derives it. -/
theorem optionToken_of_ofLong {body : List Char} {scan : Scan}
    (scanned : ofLong (ofChars body) = .ok scan) :
    OptionToken ("--" ++ String.ofList body) scan.settings scan.awaiting := by
  obtain ⟨flag, rfl | ⟨value, rfl⟩⟩ := exists_name_of_ofLong scanned
  · rw [ofLong_bare] at scanned
    rw [String.ofList_toList]
    cases flag with
    | switch which =>
      cases scanned
      exact .switch which
    | parameter which =>
      cases scanned
      exact .parameter which
  · rw [ofLong_valued] at scanned
    have split : "--" ++ String.ofList (flag.name.toList ++ '=' :: value) =
        "--" ++ flag.name ++ "=" ++ String.ofList value := by
      rw [← String.toList_inj]
      simp
    rw [split]
    cases flag with
    | switch which =>
      obtain ⟨setting, switched, rfl⟩ := ending_eq_ok_iff.mp scanned
      obtain ⟨position, known, rfl⟩ := switchTo_eq_ok_iff.mp switched
      exact .switchTo which known
    | parameter which =>
      simp only [parameterTo_ofChars] at scanned
      obtain ⟨setting, valued, rfl⟩ := ending_eq_ok_iff.mp scanned
      cases valued
      exact .parameterTo which _

/-! ### Letters -/

theorem ofLetters_switch {which : Switch} {letter : Char} (bears : which.letter? = some letter)
    {rest : List Char} (apart : rest.head? ≠ some '=') :
    ofLetters (ofChars (letter :: rest)) =
      (ofLetters (ofChars rest)).map (after (.switch which true)) := by
  have lettered : letterFlag (.char letter) (ofChars rest) = .ok (.switch which) :=
    letterFlag_eq_ok_iff.mpr bears
  show ofLetters (.char letter :: ofChars rest) = _
  rw [ofLetters.eq_def]
  simp only [lettered]
  cases rest with
  | nil => rfl
  | cons next rest =>
    have notEquals : next ≠ '=' := by simpa using apart
    simp [ofChars, notEquals]

theorem ofLetters_switchTo {which : Switch} {letter : Char} (bears : which.letter? = some letter)
    (word : List Char) :
    ofLetters (ofChars (letter :: '=' :: word)) = ending (switchTo which (ofChars word)) := by
  have lettered : letterFlag (.char letter) (ofChars ('=' :: word)) = .ok (.switch which) :=
    letterFlag_eq_ok_iff.mpr bears
  show ofLetters (.char letter :: ofChars ('=' :: word)) = _
  rw [ofLetters.eq_def]
  simp only [lettered]
  rfl

theorem ofLetters_awaiting (which : Parameter) :
    ofLetters (ofChars [which.letter]) = .ok { settings := [], awaiting := some which } := by
  cases which <;> rfl

theorem ofLetters_attached (which : Parameter) {text : List Char} (nonempty : text ≠ []) :
    ofLetters (ofChars (which.letter :: text)) =
      .ok { settings := [.parameter which (attachedValue (String.ofList text))] } := by
  have lettered : letterFlag (.char which.letter) (ofChars text) = .ok (.parameter which) :=
    letterFlag_eq_ok_iff.mpr rfl
  show ofLetters (.char which.letter :: ofChars text) = _
  rw [ofLetters.eq_def]
  simp only [lettered]
  cases text with
  | nil => exact absurd rfl nonempty
  | cons first rest =>
    by_cases equals : first = '='
    · subst equals
      show ending (parameterTo which (ofChars rest)) = _
      rw [parameterTo_ofChars]
      simp [attachedValue, ending, Except.map]
    · have unparted : (String.ofList (first :: rest)).toList.head? ≠ some '=' := by
        rw [String.toList_ofList]
        exact fun opens => equals (Option.some.inj opens)
      have read := parameterTo_ofChars which (first :: rest)
      rw [attachedValue_unparted unparted]
      generalize String.ofList (first :: rest) = value at read ⊢
      simp only [ofChars, List.map_cons] at read ⊢
      simp [equals, read, ending, Except.map]

/-! ### Clusters -/

/-- The end of a cluster, read by itself, says what the grammar has it say. -/
theorem ofLetters_of_clusterEnd {ending : String} {settings : List Setting}
    {awaiting : Option Parameter} (ends : ClusterEnd ending settings awaiting) :
    ofLetters (ofString ending) = .ok { settings, awaiting } := by
  cases ends with
  | nothing => rfl
  | @word which letter bears word position known =>
    have switched : switchTo which (ofChars word.toList) = .ok (.switch which position) :=
      switchTo_eq_ok_iff.mpr ⟨position, by rwa [String.ofList_toList], rfl⟩
    rw [ofString, String.append_assoc, toList_singleton_append, toList_equals_append,
      ofLetters_switchTo bears, switched]
    rfl
  | awaiting which =>
    rw [ofString, String.toList_singleton, ofLetters_awaiting]
  | @attached which text nonempty =>
    have someChars : text.toList ≠ [] := fun empty => nonempty (String.toList_eq_nil_iff.mp empty)
    rw [ofString, toList_singleton_append, ofLetters_attached which someChars,
      String.ofList_toList]

/-- The end of a cluster opens with the letter of a flag. -/
theorem exists_flag_of_clusterEnd {ending : String} {settings : List Setting}
    {awaiting : Option Parameter} (ends : ClusterEnd ending settings awaiting) {first : Char}
    (opens : ending.toList.head? = some first) : ∃ flag : Flag, flag.letter? = some first := by
  cases ends with
  | nothing => simp at opens
  | @word which letter bears word position known =>
    obtain rfl : letter = first := by simpa using opens
    exact ⟨.switch which, bears⟩
  | awaiting which =>
    obtain rfl : which.letter = first := by simpa using opens
    exact ⟨.parameter which, rfl⟩
  | @attached which text nonempty =>
    obtain rfl : which.letter = first := by simpa using opens
    exact ⟨.parameter which, rfl⟩

/-- A cluster opens with the letter of a flag. -/
theorem exists_flag_of_cluster {switches : List Switch} {letters ending : String}
    {settings : List Setting} {awaiting : Option Parameter}
    (lettered : Switch.Lettered switches letters) (ends : ClusterEnd ending settings awaiting)
    {first : Char} (opens : (letters.toList ++ ending.toList).head? = some first) :
    ∃ flag : Flag, flag.letter? = some first := by
  cases switches with
  | nil =>
    have empty : letters.toList = [] := List.map_eq_nil_iff.mp lettered.symm
    rw [empty] at opens
    exact exists_flag_of_clusterEnd ends opens
  | cons which switches =>
    obtain ⟨letter, others, spelled, bears, -⟩ := List.map_eq_cons_iff.mp lettered.symm
    obtain rfl : letter = first := by simpa [spelled] using opens
    exact ⟨.switch which, bears.symm⟩

/-- A cluster with anything in it opens with a letter, which is no dash. -/
theorem exists_cons_of_cluster {switches : List Switch} {letters ending : String}
    {settings : List Setting} {awaiting : Option Parameter}
    (lettered : Switch.Lettered switches letters) (ends : ClusterEnd ending settings awaiting)
    (nonempty : letters ++ ending ≠ "") :
    ∃ first rest, letters.toList ++ ending.toList = first :: rest ∧ first ≠ '-' := by
  have inhabited : letters.toList ++ ending.toList ≠ [] := by
    rw [← String.toList_append]
    exact fun empty => nonempty (String.toList_eq_nil_iff.mp empty)
  obtain ⟨first, rest, body⟩ := List.exists_cons_of_ne_nil inhabited
  have opens : (letters.toList ++ ending.toList).head? = some first := by rw [body]; rfl
  obtain ⟨flag, bears⟩ := exists_flag_of_cluster lettered ends opens
  exact ⟨first, rest, body, (Flag.letter?_ne_sign bears).2⟩

/-- Bare switches in front of other letters are turned on before them. -/
theorem ofLetters_turnedOn {switches : List Switch} {letters : List Char}
    (lettered : switches.map Switch.letter? = letters.map some) {rest : List Char}
    (apart : rest.head? ≠ some '=') :
    ofLetters (ofChars (letters ++ rest)) =
      (ofLetters (ofChars rest)).map fun scan =>
        { scan with settings := Switch.turnedOn switches ++ scan.settings } := by
  induction switches generalizing letters with
  | nil =>
    obtain rfl : letters = [] := List.map_eq_nil_iff.mp lettered.symm
    rw [List.nil_append]
    cases ofLetters (ofChars rest) <;> rfl
  | cons which switches inductionHypothesis =>
    obtain ⟨letter, others, rfl, bears, lettered⟩ := List.map_eq_cons_iff.mp lettered.symm
    have othersApart : (others ++ rest).head? ≠ some '=' := by
      cases others with
      | nil => exact apart
      | cons next others =>
        obtain ⟨other, _, _, nextBears, _⟩ := List.map_eq_cons_iff.mp lettered.symm
        have bears : (Flag.switch other).letter? = some next := nextBears
        simp [(Flag.letter?_ne_sign bears).1]
    rw [List.cons_append, ofLetters_switch bears.symm othersApart,
      inductionHypothesis lettered.symm]
    cases ofLetters (ofChars rest) <;> rfl

theorem exists_flag_of_ofLetters {letter : Char} {rest : List Char} {scan : Scan}
    (scanned : ofLetters (ofChars (letter :: rest)) = .ok scan) :
    ∃ flag : Flag, flag.letter? = some letter := by
  cases lettered : letterFlag (.char letter) (ofChars rest) with
  | ok flag => exact ⟨flag, letterFlag_eq_ok_iff.mp lettered⟩
  | error error =>
    have failed : ofLetters (ofChars (letter :: rest)) = .error error := by
      show ofLetters (.char letter :: ofChars rest) = _
      rw [ofLetters.eq_def]
      simp [lettered]
    rw [failed] at scanned
    cases scanned

/-- Letters scan only where the grammar derives them: bare switches, then the end of a cluster. -/
theorem exists_cluster_of_ofLetters {body : List Char} {scan : Scan}
    (scanned : ofLetters (ofChars body) = .ok scan) :
    ∃ switches letters ending settings, Switch.Lettered switches letters ∧
      ClusterEnd ending settings scan.awaiting ∧ body = letters.toList ++ ending.toList ∧
      scan.settings = Switch.turnedOn switches ++ settings := by
  induction body generalizing scan with
  | nil =>
    cases scanned
    exact ⟨[], "", "", [], rfl, .nothing, rfl, rfl⟩
  | cons letter rest inductionHypothesis =>
    obtain ⟨flag, bears⟩ := exists_flag_of_ofLetters scanned
    cases flag with
    | switch which =>
      by_cases word : rest.head? = some '='
      · obtain ⟨word, rfl⟩ := List.head?_eq_some_iff.mp word
        rw [ofLetters_switchTo bears] at scanned
        obtain ⟨setting, switched, rfl⟩ := ending_eq_ok_iff.mp scanned
        obtain ⟨position, known, rfl⟩ := switchTo_eq_ok_iff.mp switched
        exact ⟨[], "", _, _, rfl, .word bears known, by simp, rfl⟩
      · rw [ofLetters_switch bears word] at scanned
        obtain ⟨later, laterScanned, rfl⟩ := map_eq_ok_iff.mp scanned
        obtain ⟨switches, letters, ending, settings, lettered, ends, rfl, written⟩ :=
          inductionHypothesis laterScanned
        refine ⟨which :: switches, String.singleton letter ++ letters, ending, settings, ?_, ends,
          by simp, ?_⟩
        · simpa [Switch.Lettered, lettered] using ⟨bears, lettered⟩
        · exact congrArg (Setting.switch which true :: ·) written
    | parameter which =>
      obtain rfl : which.letter = letter := Option.some.inj bears
      cases rest with
      | nil =>
        rw [ofLetters_awaiting] at scanned
        cases scanned
        exact ⟨[], "", _, [], rfl, .awaiting which, by simp, rfl⟩
      | cons first rest =>
        rw [ofLetters_attached which (List.cons_ne_nil first rest)] at scanned
        cases scanned
        have attached : ClusterEnd
            (String.singleton which.letter ++ String.ofList (first :: rest)) _ none :=
          .attached which (by simp)
        exact ⟨[], "", _, _, rfl, attached, by simp, rfl⟩

/-! ### One token -/

theorem shape_name (flag : Flag) :
    (ofString ("--" ++ flag.name)).shape = .long (ofChars flag.name.toList) := by
  obtain ⟨first, rest, name, -⟩ := flag.name_eq_cons
  rw [ofString, toList_dashes_append, name, shape_long]

theorem shape_named (flag : Flag) (value : String) :
    (ofString ("--" ++ flag.name ++ "=" ++ value)).shape =
      .long (ofChars (flag.name.toList ++ '=' :: value.toList)) := by
  obtain ⟨first, rest, name, -⟩ := flag.name_eq_cons
  have chars : ("--" ++ flag.name ++ "=" ++ value).toList =
      '-' :: '-' :: first :: (rest ++ '=' :: value.toList) := by
    simp [name]
  rw [ofString, chars, name, shape_long]
  rfl

theorem shape_cluster {switches : List Switch} {letters ending : String}
    {settings : List Setting} {awaiting : Option Parameter}
    (lettered : Switch.Lettered switches letters) (ends : ClusterEnd ending settings awaiting)
    (nonempty : letters ++ ending ≠ "") :
    (ofString ("-" ++ letters ++ ending)).shape =
      .letters (ofChars (letters.toList ++ ending.toList)) := by
  obtain ⟨first, rest, body, single⟩ := exists_cons_of_cluster lettered ends nonempty
  rw [ofString, String.append_assoc, toList_dash_append, String.toList_append, body,
    shape_letters single]

theorem ofToken_of_long {token body : Token} (shape : token.shape = .long body) :
    token.Flagged ∧ ofToken token = ofLong body := by
  unfold Flagged ofToken
  rw [shape]
  exact ⟨⟨by simp, by simp⟩, rfl⟩

theorem ofToken_of_letters {token body : Token} (shape : token.shape = .letters body) :
    token.Flagged ∧ ofToken token = ofLetters body := by
  unfold Flagged ofToken
  rw [shape]
  exact ⟨⟨by simp, by simp⟩, rfl⟩

/-- What the grammar derives is a flag where a flag may stand, and scans as it was derived. -/
theorem ofToken_of_optionToken {token : String} {settings : List Setting}
    {awaiting : Option Parameter} (written : OptionToken token settings awaiting) :
    (ofString token).Flagged ∧ ofToken (ofString token) = .ok { settings, awaiting } := by
  cases written with
  | switch which =>
    obtain ⟨flagged, opened⟩ := ofToken_of_long (shape_name (.switch which))
    exact ⟨flagged, opened.trans (ofLong_bare (.switch which))⟩
  | parameter which =>
    obtain ⟨flagged, opened⟩ := ofToken_of_long (shape_name (.parameter which))
    exact ⟨flagged, opened.trans (ofLong_bare (.parameter which))⟩
  | @switchTo which word position known =>
    obtain ⟨flagged, opened⟩ := ofToken_of_long (shape_named (.switch which) word)
    have scanned := opened.trans (ofLong_valued (.switch which) word.toList)
    have switched : switchTo which (ofChars word.toList) = .ok (.switch which position) :=
      switchTo_eq_ok_iff.mpr ⟨position, by rwa [String.ofList_toList], rfl⟩
    exact ⟨flagged, scanned.trans (ending_eq_ok_iff.mpr ⟨_, switched, rfl⟩)⟩
  | parameterTo which value =>
    obtain ⟨flagged, opened⟩ := ofToken_of_long (shape_named (.parameter which) value)
    have scanned := opened.trans (ofLong_valued (.parameter which) value.toList)
    have valued := parameterTo_ofChars which value.toList
    rw [String.ofList_toList] at valued
    exact ⟨flagged, scanned.trans (ending_eq_ok_iff.mpr ⟨_, valued, rfl⟩)⟩
  | @cluster switches letters ends settings awaiting lettered closed nonempty =>
    obtain ⟨flagged, opened⟩ := ofToken_of_letters (shape_cluster lettered closed nonempty)
    have apart : ends.toList.head? ≠ some '=' := fun opens => by
      obtain ⟨flag, bears⟩ := exists_flag_of_clusterEnd closed opens
      exact (Flag.letter?_ne_sign bears).1 rfl
    have scanned := ofLetters_of_clusterEnd closed
    rw [ofString] at scanned
    refine ⟨flagged, opened.trans ?_⟩
    rw [ofLetters_turnedOn lettered apart, scanned]
    rfl

/-- A flag that scans is derived by the grammar. -/
theorem optionToken_of_ofToken {token : String} {scan : Scan}
    (flagged : (ofString token).Flagged) (scanned : ofToken (ofString token) = .ok scan) :
    OptionToken token scan.settings scan.awaiting := by
  obtain ⟨notOperand, notTerminator⟩ := flagged
  unfold ofToken at scanned
  unfold ofString at notOperand notTerminator scanned
  rcases shape_ofChars_cases token.toList with ⟨shape, -⟩ | ⟨shape, -⟩ | ⟨c, rest, shape, chars⟩ |
    ⟨c, rest, shape, chars, -⟩
  · exact absurd shape notOperand
  · exact absurd shape notTerminator
  · rw [shape] at scanned
    have written := optionToken_of_ofLong scanned
    have same : "--" ++ String.ofList (c :: rest) = token := by
      rw [← String.toList_inj, chars]
      simp
    rwa [same] at written
  · rw [shape] at scanned
    obtain ⟨switches, letters, ending, settings, lettered, ends, body, written⟩ :=
      exists_cluster_of_ofLetters scanned
    have same : token = "-" ++ letters ++ ending := by
      rw [← String.toList_inj, chars, body]
      simp
    have nonempty : letters ++ ending ≠ "" := fun empty => by
      rw [← String.toList_append, empty] at body
      simp at body
    rw [same, written]
    exact .cluster lettered ends nonempty

/-- A token is an option of the grammar exactly when it is a flag that scans. -/
theorem optionToken_iff {token : String} {settings : List Setting} {awaiting : Option Parameter} :
    OptionToken token settings awaiting ↔
      (ofString token).Flagged ∧ ofToken (ofString token) = .ok { settings, awaiting } :=
  ⟨ofToken_of_optionToken, fun ⟨flagged, scanned⟩ => optionToken_of_ofToken flagged scanned⟩

end Scan

end ThriftCommand
