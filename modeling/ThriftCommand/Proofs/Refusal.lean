/-
This file says what a command line is refused for, as a grammar beside the one of what is accepted,
and proves that a refusal is final. Behind complete options stands either an ending, which is
accepted, or a fault: a token of flags that cannot be read, a flag in the place of a value, or a
parameter without anything behind it. The first two hold whatever follows them. The last one is the
exception: the next token can be the value.
-/

import ThriftCommand.Proofs.Lockstep
import ThriftCommand.Proofs.Operands
import ThriftCommand.Proofs.Respelling

namespace ThriftCommand

open Spelling

/-! ### Tokens of flags in any spelling -/

theorem Spelling.flagged_canonical {text : String} (flagged : (Token.ofString text).Flagged) :
    (canonical (Token.ofString text)).Flagged :=
  (exists_canonical flagged).1.canonicalFlagged

/-- What scans in the spelling of the pass was an option in its own. -/
theorem looseToken_of_ofToken {text : String} (flagged : (Token.ofString text).Flagged)
    {settings : List Setting} {awaiting : Option Parameter}
    (scanned : Scan.ofToken (canonical (Token.ofString text)) = .ok { settings, awaiting }) :
    LooseToken text settings awaiting := by
  obtain ⟨respelled, spelled, canonicalSpelled⟩ := exists_canonical flagged
  have canonicalFlagged := respelled.canonicalFlagged
  rw [canonicalSpelled] at canonicalFlagged scanned
  have written := Scan.optionToken_of_ofToken canonicalFlagged scanned
  by_cases single : SingleDash text
  · have dashed := Token.ofString_inj.mp (canonicalSpelled.symm.trans (respelled.dashed single))
    obtain ⟨body, rfl⟩ := exists_body_of_singleDash single
    rw [dashed, ← String.append_assoc] at written
    exact .shortened written
  · have same := Token.ofString_inj.mp
      (canonicalSpelled.symm.trans (canonical_of_not_singleDash single))
    rw [same] at written
    exact .plain written single

/-- An option in any spelling scans in that of the pass, and the pass takes the next token for it
exactly where the grammar leaves it a value. -/
theorem ofToken_of_looseToken {text : String} {settings : List Setting}
    {awaiting : Option Parameter} (written : LooseToken text settings awaiting) :
    Scan.ofToken (canonical (Token.ofString text)) = .ok { settings, awaiting } ∧
      awaitsValue (Token.ofString text) = awaiting.isSome := by
  obtain ⟨spelled, canonicalSpelled, canonicalWritten⟩ := canonical_of_looseToken written
  refine ⟨?_, awaitsValue_of_optionToken canonicalSpelled canonicalWritten⟩
  rw [canonicalSpelled]
  exact (Scan.ofToken_of_optionToken canonicalWritten).2

/-! ### Faults -/

/-- What a command line is refused for, behind its options, and the error. -/
inductive Fault : List Token → FlagError → Prop
  /-- A token of flags that cannot be read. -/
  | unread {text : String} (flagged : (Token.ofString text).Flagged) {error : FlagError}
      (wrong : Scan.ofToken (canonical (Token.ofString text)) = .error error)
      (others : List Token) :
    Fault (Token.ofString text :: others) error
  /-- A flag in the place of the value that a parameter awaits. -/
  | displaced {text : String} {settings : List Setting} {which : Parameter}
      (written : LooseToken text settings (some which)) {value : Token}
      (notPlain : value.shape ≠ .operand) (others : List Token) :
    Fault (Token.ofString text :: value :: others)
      (Reading.noticedAt (some value) (.missingValue which))
  /-- A parameter with nothing behind it. -/
  | unfinished {text : String} {settings : List Setting} {which : Parameter}
      (written : LooseToken text settings (some which)) :
    Fault [Token.ofString text] (.missingValue which)

/-- The pass has nothing to add behind the last token of flags. -/
theorem Spelling.Layout.canonical_of_last {token : Token} (continued : stops token = false) :
    (Layout.ofTokens [token]).canonical = [Spelling.canonical token] := by
  rw [ofTokens_last continued]
  rfl

/-- A token of flags is the first that the reader sees of what the pass makes of it. -/
theorem Spelling.Layout.exists_canonical_cons {token : Token} (continued : stops token = false)
    (others : List Token) :
    ∃ behind, (Layout.ofTokens (token :: others)).canonical =
      Spelling.canonical token :: behind := by
  cases others with
  | nil => exact ⟨[], canonical_of_last continued⟩
  | cons value later =>
    cases awaits : awaitsValue token with
    | false =>
      rw [ofTokens_complete continued awaits, canonical_after]
      exact ⟨_, rfl⟩
    | true =>
      rw [ofTokens_separate continued awaits, canonical_after]
      exact ⟨_, rfl⟩

/-- A fault is what the reader complains of. -/
theorem Fault.ofTokens {tokens : List Token} {error : FlagError} (fault : Fault tokens error) :
    Reading.ofTokens (Layout.ofTokens tokens).canonical = .error error := by
  cases fault with
  | unread flagged wrong others =>
    obtain ⟨behind, passed⟩ := Layout.exists_canonical_cons (stops_eq_false flagged) others
    rw [passed, Reading.ofTokens_of_flagged (flagged_canonical flagged), wrong]
  | displaced written notPlain others =>
    have flagged := flagged_of_looseToken written
    obtain ⟨scanned, awaits⟩ := ofToken_of_looseToken written
    rw [Layout.ofTokens_separate (stops_eq_false flagged) awaits, Layout.canonical_after,
      Reading.ofTokens_of_flagged (flagged_canonical flagged), scanned]
    simp [notPlain]
  | unfinished written =>
    have flagged := flagged_of_looseToken written
    obtain ⟨scanned, -⟩ := ofToken_of_looseToken written
    rw [Layout.canonical_of_last (stops_eq_false flagged),
      Reading.ofTokens_of_flagged (flagged_canonical flagged), scanned]

/-- Whatever follows a fault, it stays the same fault, unless a parameter was left unfinished. -/
theorem Fault.append {tokens : List Token} {error : FlagError} (fault : Fault tokens error) :
    (∀ later, Fault (tokens ++ later) error) ∨
      ∃ text settings which, tokens = [Token.ofString text] ∧
        LooseToken text settings (some which) ∧ error = .missingValue which := by
  cases fault with
  | unread flagged wrong others => exact Or.inl fun later => .unread flagged wrong _
  | displaced written notPlain others => exact Or.inl fun later => .displaced written notPlain _
  | unfinished written => exact Or.inr ⟨_, _, _, rfl, written, rfl⟩

/-! ### Every command line ends or breaks -/

/-- A token of flags is an option or a fault. -/
theorem looseToken_or_unread {text : String} (flagged : (Token.ofString text).Flagged) :
    (∃ settings awaiting, LooseToken text settings awaiting) ∨
      ∃ error, Scan.ofToken (canonical (Token.ofString text)) = .error error := by
  cases scanned : Scan.ofToken (canonical (Token.ofString text)) with
  | error error => exact Or.inr ⟨error, rfl⟩
  | ok scan => exact Or.inl ⟨scan.settings, scan.awaiting, looseToken_of_ofToken flagged scanned⟩

/-- Behind complete options stands an ending or a fault. An option takes one token or two, so this
goes by how many tokens are left. -/
theorem exists_options (texts : List String) :
    ∃ options occurrences rest, texts = options ++ rest ∧
      OptionSequence LooseToken options occurrences ∧
      ((∃ operands, Ending rest operands) ∨ ∃ error, Fault (rest.map Token.ofString) error) := by
  induction size : texts.length using Nat.strongRecOn generalizing texts with
  | _ count inductionHypothesis =>
  cases texts with
  | nil => exact ⟨[], [], [], rfl, .nil, Or.inl ⟨[], .nothing⟩⟩
  | cons text rest =>
    by_cases stopped : stops (Token.ofString text) = true
    · rcases stops_ofString_iff.mp stopped with plain | rfl
      · exact ⟨[], [], _, rfl, .nil, Or.inl ⟨_, .operands plain rest⟩⟩
      · exact ⟨[], [], _, rfl, .nil, Or.inl ⟨_, .dashes rest⟩⟩
    · rw [Bool.not_eq_true] at stopped
      have flagged := flagged_of_continued stopped
      rcases looseToken_or_unread flagged with ⟨settings, awaiting, written⟩ | ⟨error, wrong⟩
      · cases awaiting with
        | none =>
          have shorter : rest.length < count := by
            rw [← size, List.length_cons]
            omega
          obtain ⟨options, occurrences, behind, rfl, sequence, ends⟩ :=
            inductionHypothesis rest.length shorter rest rfl
          exact ⟨[text] ++ options, _, behind, rfl, .cons (.complete written) sequence, ends⟩
        | some which =>
          cases rest with
          | nil => exact ⟨[], [], _, rfl, .nil, Or.inr ⟨_, .unfinished written⟩⟩
          | cons value later =>
            by_cases plain : Plain value
            · have shorter : later.length < count := by
                rw [← size, List.length_cons, List.length_cons]
                omega
              obtain ⟨options, occurrences, behind, rfl, sequence, ends⟩ :=
                inductionHypothesis later.length shorter later rfl
              exact ⟨[text, value] ++ options, _, behind, rfl,
                .cons (.separate written plain) sequence, ends⟩
            · have notPlain : (Token.ofString value).shape ≠ .operand := fun operand =>
                plain (shape_ofString_eq_operand_iff.mp operand)
              exact ⟨[], [], _, rfl, .nil, Or.inr ⟨_, .displaced written notPlain _⟩⟩
      · exact ⟨[], [], _, rfl, .nil, Or.inr ⟨error, .unread flagged wrong _⟩⟩

theorem ofArguments_of_fault {options : List String} {occurrences : List Setting}
    (complete : OptionSequence LooseToken options occurrences) {rest : List Token}
    {error : FlagError} (fault : Fault rest error) (program : Token) :
    Invocation.ofArguments (program :: (options.map Token.ofString ++ rest)) =
      .error (.flags error) := by
  rw [Invocation.ofArguments, Spelling.ofArguments_of_optionSequence complete, fault.ofTokens]
  rfl

/-- A command line is refused for a flag exactly where a fault stands behind its options, with the
error of that fault. -/
theorem ofArguments_eq_flags_iff {arguments : List String} {error : FlagError} :
    Invocation.ofArguments (arguments.map Token.ofString) = .error (.flags error) ↔
      ∃ program options occurrences rest, arguments = program :: (options ++ rest) ∧
        OptionSequence LooseToken options occurrences ∧ Fault (rest.map Token.ofString) error := by
  constructor
  · intro refused
    cases arguments with
    | nil => exact absurd refused (ofCommandLine_ne_flags _ error)
    | cons program texts =>
      obtain ⟨options, occurrences, rest, rfl, complete, ⟨operands, ends⟩ | ⟨found, fault⟩⟩ :=
        exists_options texts
      · rw [List.map_cons, ofArguments_of_ending complete ends] at refused
        exact absurd refused (ofCommandLine_ne_flags _ error)
      · have answer := ofArguments_of_fault complete fault (Token.ofString program)
        rw [← List.map_append, ← List.map_cons, refused] at answer
        obtain rfl : error = found := by simpa using answer
        exact ⟨program, options, occurrences, rest, rfl, complete, fault⟩
  · rintro ⟨program, options, occurrences, rest, rfl, complete, fault⟩
    rw [List.map_cons, List.map_append]
    exact ofArguments_of_fault complete fault (Token.ofString program)

/-! ### A refusal is final -/

/-- The last argument is a token of flags, behind complete options, and leaves the value of its last
parameter to the next argument. -/
inductive Unfinished : List String → Parameter → Prop
  | intro (program : String) {options : List String} {occurrences : List Setting}
      (complete : OptionSequence LooseToken options occurrences) {token : String}
      {settings : List Setting} {which : Parameter}
      (written : LooseToken token settings (some which)) :
    Unfinished (program :: (options ++ [token])) which

/-- The parameter that is left unfinished is that of the last argument. -/
theorem Unfinished.exists_last {arguments : List String} {which : Parameter}
    (unfinished : Unfinished arguments which) :
    ∃ token settings, arguments.getLast? = some token ∧
      LooseToken token settings (some which) := by
  obtain ⟨program, complete, written⟩ := unfinished
  refine ⟨_, _, ?_, written⟩
  rw [← List.cons_append, List.getLast?_concat]

/-- What is left unfinished can be finished, and then no flag is wrong. -/
theorem Unfinished.ofArguments_ne_flags {arguments : List String} {which : Parameter}
    (unfinished : Unfinished arguments which) (error : FlagError) :
    Invocation.ofArguments ((arguments ++ ["value"]).map Token.ofString) ≠
      .error (.flags error) := by
  obtain ⟨program, complete, written⟩ := unfinished
  have finished := complete.append
    (OptionWriting.separate written (by decide : Plain "value")).sequence
  have answer := ofArguments_of_ending finished .nothing (Token.ofString program)
  rw [List.append_nil] at answer
  intro refused
  rw [List.cons_append, List.append_assoc, List.map_cons] at refused
  exact ofCommandLine_ne_flags _ error (answer.symm.trans refused)

/-- What is wrong with a flag is wrong whatever follows, with the same error. The one exception is
a parameter at the end that still awaits its value, and there something can follow that puts it
right. -/
theorem ofArguments_flags_append (arguments : List String) (error : FlagError)
    (refused : Invocation.ofArguments (arguments.map Token.ofString) = .error (.flags error)) :
    (∀ later : List Token,
        Invocation.ofArguments (arguments.map Token.ofString ++ later) = .error (.flags error)) ↔
      ¬ ∃ which, error = .missingValue which ∧ Unfinished arguments which := by
  constructor
  · rintro final ⟨which, -, unfinished⟩
    have still := final (["value"].map Token.ofString)
    rw [← List.map_append] at still
    exact unfinished.ofArguments_ne_flags error still
  · intro finished later
    obtain ⟨program, options, occurrences, rest, rfl, complete, fault⟩ :=
      ofArguments_eq_flags_iff.mp refused
    rcases fault.append with final | ⟨text, settings, which, last, written, missing⟩
    · rw [List.map_cons, List.map_append, List.cons_append, List.append_assoc]
      exact ofArguments_of_fault complete (final later) (Token.ofString program)
    · obtain ⟨token, others, rfl, spelled, empty⟩ := List.map_eq_cons_iff.mp last
      obtain rfl := List.map_eq_nil_iff.mp empty
      obtain rfl := Token.ofString_inj.mp spelled
      exact absurd ⟨which, missing, .intro program complete written⟩ finished

/-- A word that is no position stays wrong in front of a question for help, and so does a question
for help in the place of a directory. A cluster that ends in a parameter can still be put right. -/
theorem ofArguments_flags_append_help :
    (∀ later : List Token,
      Invocation.ofArguments (["thriftgen", "-rq", "-v=maybe"].map Token.ofString ++ later) =
        .error (.flags (.notBoolean .verbose "maybe"))) ∧
    (∀ later : List Token,
      Invocation.ofArguments (["thriftgen", "-ro", "--help"].map Token.ofString ++ later) =
        .error (.flags (.missingValue .output))) ∧
    Invocation.ofArguments (["thriftgen", "-ro"].map Token.ofString) =
      .error (.flags (.missingValue .output)) ∧
    ¬ ∀ later : List Token,
      Invocation.ofArguments (["thriftgen", "-ro"].map Token.ofString ++ later) =
        .error (.flags (.missingValue .output)) := by
  have cluster : LooseToken "-ro" [.switch .recurse true] (some .output) :=
    .plain (Scan.optionToken_iff.mpr ⟨by decide, rfl⟩) (by decide)
  refine ⟨?_, ?_, rfl, ?_⟩
  · refine (ofArguments_flags_append ["thriftgen", "-rq", "-v=maybe"] _ rfl).mpr ?_
    rintro ⟨which, missing, -⟩
    cases missing
  · refine (ofArguments_flags_append ["thriftgen", "-ro", "--help"] _ rfl).mpr ?_
    rintro ⟨which, -, unfinished⟩
    obtain ⟨token, settings, last, written⟩ := unfinished.exists_last
    obtain rfl : "--help" = token := by simpa using last
    have awaits : awaitsValue (Token.ofString "--help") = true :=
      (ofToken_of_looseToken written).2
    exact absurd awaits (by decide)
  · intro final
    exact (ofArguments_flags_append ["thriftgen", "-ro"] _ rfl).mp final
      ⟨.output, rfl, .intro "thriftgen" .nil cluster⟩

end ThriftCommand
