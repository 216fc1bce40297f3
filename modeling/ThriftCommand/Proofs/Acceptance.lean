/-
This file proves which command lines are accepted, and what they settle. The reader accepts
exactly what the grammar derives: options in sequence, then an ending. A switch then stands where
its last occurrence put it, the output directory is the last that was named, and the parameters
that gather have all their values in order.

One token is one step of the reader. The step is stated once in each direction, and both halves of
the main result carry it along the tokens: from a derivation to the reading, and back.
-/

import ThriftCommand.Proofs.Scanning
import ThriftCommand.Proofs.Settlement

namespace ThriftCommand

namespace Reading

/-! ### One step of the reader -/

/-- What the reader does with a flag, whichever way it is spelled. -/
theorem ofTokens_of_flagged {token : Token} (flagged : token.Flagged) (rest : List Token) :
    ofTokens (token :: rest) =
      match Scan.ofToken token with
      | .error error => .error error
      | .ok ⟨settings, none⟩ => (ofTokens rest).map (after { token, settings })
      | .ok ⟨settings, some which⟩ =>
        match rest with
        | [] => .error (.missingValue which)
        | value :: later =>
          if value.shape = .operand then
            match value.text? with
            | none => .error (noticedAt later.head? .undecodable)
            | some text =>
              (ofTokens later).map (after
                { token, separate := some value,
                  settings := settings ++ [.parameter which text] })
          else .error (noticedAt (some value) (.missingValue which)) := by
  obtain ⟨notOperand, notTerminator⟩ := flagged
  rw [ofTokens.eq_def]
  split
  · rename_i empty
    cases empty
  · rename_i first others same
    obtain ⟨rfl, rfl⟩ := List.cons.inj same
    split
    · rename_i shape
      exact absurd shape notOperand
    · rename_i shape
      exact absurd shape notTerminator
    · rfl
    · rfl

/-- A flag that needs nothing more is one unit. -/
theorem ofTokens_complete {token : Token} (flagged : token.Flagged) {settings : List Setting}
    (scanned : Scan.ofToken token = .ok { settings }) (rest : List Token) :
    ofTokens (token :: rest) = (ofTokens rest).map (after { token, settings }) := by
  rw [ofTokens_of_flagged flagged, scanned]

/-- A flag that awaits a value makes one unit with the token after it. -/
theorem ofTokens_separate {token value : Token} (flagged : token.Flagged)
    {settings : List Setting} {which : Parameter}
    (scanned : Scan.ofToken token = .ok { settings, awaiting := some which })
    (plain : value.shape = .operand) {text : String} (decoded : value.text? = some text)
    (later : List Token) :
    ofTokens (token :: value :: later) = (ofTokens later).map (after
      { token, separate := some value, settings := settings ++ [.parameter which text] }) := by
  rw [ofTokens_of_flagged flagged, scanned]
  simp only [plain, if_true, decoded]

/-- Every unit of an accepted command line is of one of the two kinds. -/
theorem exists_unit_of_ofTokens {token : Token} (flagged : token.Flagged) {rest : List Token}
    {reading : Reading} (accepted : ofTokens (token :: rest) = .ok reading) :
    (∃ settings later, Scan.ofToken token = .ok { settings } ∧ ofTokens rest = .ok later ∧
        reading = after { token, settings } later) ∨
      ∃ settings which value text tokens later,
        Scan.ofToken token = .ok { settings, awaiting := some which } ∧
        rest = value :: tokens ∧ value.shape = .operand ∧ value.text? = some text ∧
        ofTokens tokens = .ok later ∧
        reading = after { token, separate := some value,
                          settings := settings ++ [.parameter which text] } later := by
  rw [ofTokens_of_flagged flagged] at accepted
  split at accepted
  · cases accepted
  · rename_i settings scanned
    obtain ⟨later, laterAccepted, rfl⟩ := map_eq_ok_iff.mp accepted
    exact Or.inl ⟨settings, later, scanned, laterAccepted, rfl⟩
  · rename_i settings which scanned
    split at accepted
    · cases accepted
    · rename_i value tokens
      split at accepted
      · rename_i plain
        split at accepted
        · cases accepted
        · rename_i text decoded
          obtain ⟨later, laterAccepted, rfl⟩ := map_eq_ok_iff.mp accepted
          exact Or.inr ⟨settings, which, value, text, tokens, later, scanned, rfl, plain, decoded,
            laterAccepted, rfl⟩
      · cases accepted

/-! ### Endings -/

theorem ofOperands_ofString (operands : List String) :
    ofOperands (operands.map Token.ofString) = .ok { units := [], operands } := by
  have decoded : (operands.map Token.ofString).mapM Token.text? = some operands := by
    induction operands with
    | nil => rfl
    | cons operand rest inductionHypothesis =>
      rw [List.map_cons, List.mapM_cons, Token.text?_ofString, inductionHypothesis]
      rfl
  rw [ofOperands, decoded]

theorem ofTokens_of_operand {first : Token} (plain : first.shape = .operand)
    (others : List Token) : ofTokens (first :: others) = ofOperands (first :: others) := by
  rw [ofTokens.eq_def]
  simp only [plain]

theorem ofTokens_of_terminator {dashes : Token} (terminates : dashes.shape = .terminator)
    (operands : List Token) : ofTokens (dashes :: operands) = ofOperands operands := by
  rw [ofTokens.eq_def]
  simp only [terminates]

/-- An ending is read as its operands, without a unit. -/
theorem ofTokens_of_ending {ending operands : List String} (ends : Ending ending operands) :
    ofTokens (ending.map Token.ofString) = .ok { units := [], operands } := by
  cases ends with
  | nothing => rfl
  | dashes =>
    rw [List.map_cons, ofTokens_of_terminator (shape_ofString_eq_terminator_iff.mpr rfl),
      ofOperands_ofString]
  | operands plain others =>
    rw [List.map_cons, ofTokens_of_operand (shape_ofString_eq_operand_iff.mpr plain),
      ← List.map_cons, ofOperands_ofString]

/-! ### Derivations are read -/

theorem ofTokens_of_optionWriting {tokens : List String} {settings : List Setting}
    (written : OptionWriting OptionToken tokens settings) :
    ∃ unit : OptionUnit, unit.settings = settings ∧ ∀ rest,
      ofTokens (tokens.map Token.ofString ++ rest) = (ofTokens rest).map (after unit) := by
  cases written with
  | complete written =>
    obtain ⟨flagged, scanned⟩ := Scan.optionToken_iff.mp written
    exact ⟨_, rfl, ofTokens_complete flagged scanned⟩
  | separate written plain =>
    obtain ⟨flagged, scanned⟩ := Scan.optionToken_iff.mp written
    exact ⟨_, rfl, ofTokens_separate flagged scanned (shape_ofString_eq_operand_iff.mpr plain)
      (Token.text?_ofString _)⟩

theorem ofTokens_of_optionSequence {tokens : List String} {settings : List Setting}
    (written : OptionSequence OptionToken tokens settings) :
    ∃ units : List OptionUnit, units.flatMap OptionUnit.settings = settings ∧ ∀ rest,
      ofTokens (tokens.map Token.ofString ++ rest) =
        (ofTokens rest).map fun reading => { reading with units := units ++ reading.units } := by
  induction written with
  | nil =>
    refine ⟨[], rfl, fun rest => ?_⟩
    rw [List.map_nil, List.nil_append]
    cases ofTokens rest <;> rfl
  | @cons tokens others settings later first _ inductionHypothesis =>
    obtain ⟨unit, rfl, step⟩ := ofTokens_of_optionWriting first
    obtain ⟨units, rfl, run⟩ := inductionHypothesis
    refine ⟨unit :: units, rfl, fun rest => ?_⟩
    rw [List.map_append, List.append_assoc, step, run]
    cases ofTokens rest <;> rfl

/-! ### Readings are derived -/

/-- What an accepted command line holds is derived by the grammar. A unit takes one token or two, so
this goes by how many tokens are left. -/
theorem derives_of_ofTokens {tokens : List String} {reading : Reading}
    (accepted : ofTokens (tokens.map Token.ofString) = .ok reading) :
    Derives tokens reading.settings reading.operands := by
  induction size : tokens.length using Nat.strongRecOn generalizing tokens reading with
  | _ count inductionHypothesis =>
  cases tokens with
  | nil =>
    cases accepted
    exact ⟨[], [], rfl, .nil, .nothing⟩
  | cons token rest =>
    by_cases plain : (Token.ofString token).shape = .operand
    · rw [List.map_cons, ofTokens_of_operand plain, ← List.map_cons, ofOperands_ofString]
        at accepted
      cases accepted
      exact ⟨[], _, rfl, .nil, .operands (shape_ofString_eq_operand_iff.mp plain) rest⟩
    · by_cases terminates : (Token.ofString token).shape = .terminator
      · rw [List.map_cons, ofTokens_of_terminator terminates, ofOperands_ofString] at accepted
        cases accepted
        obtain rfl := shape_ofString_eq_terminator_iff.mp terminates
        exact ⟨[], _, rfl, .nil, .dashes rest⟩
      · have flagged : (Token.ofString token).Flagged := ⟨plain, terminates⟩
        rcases exists_unit_of_ofTokens flagged accepted with
          ⟨settings, later, scanned, laterAccepted, rfl⟩ |
          ⟨settings, which, value, text, tokens, later, scanned, restTokens, valuePlain, decoded,
            laterAccepted, rfl⟩
        · have shorter : rest.length < count := by
            rw [← size, List.length_cons]
            omega
          obtain ⟨options, ending, rfl, written, ends⟩ :=
            inductionHypothesis rest.length shorter laterAccepted rfl
          have first := OptionWriting.complete (Scan.optionToken_iff.mpr ⟨flagged, scanned⟩)
          exact ⟨[token] ++ options, ending, rfl, .cons first written, ends⟩
        · obtain ⟨valueText, others, rfl, rfl, rfl⟩ := List.map_eq_cons_iff.mp restTokens
          have shorter : others.length < count := by
            rw [← size, List.length_cons, List.length_cons]
            omega
          obtain ⟨options, ending, rfl, written, ends⟩ :=
            inductionHypothesis others.length shorter laterAccepted rfl
          obtain rfl := Option.some.inj ((Token.text?_ofString valueText).symm.trans decoded)
          have first := OptionWriting.separate (Scan.optionToken_iff.mpr ⟨flagged, scanned⟩)
            (shape_ofString_eq_operand_iff.mp valuePlain)
          exact ⟨[token, valueText] ++ options, ending, rfl, .cons first written, ends⟩

/-- The reader accepts what the grammar derives, with the settings and operands derived. -/
theorem exists_ofTokens_iff {tokens : List String} {settings : List Setting}
    {operands : List String} :
    (∃ reading, ofTokens (tokens.map Token.ofString) = .ok reading ∧
      reading.settings = settings ∧ reading.operands = operands) ↔
        Derives tokens settings operands := by
  constructor
  · rintro ⟨reading, accepted, rfl, rfl⟩
    exact derives_of_ofTokens accepted
  · rintro ⟨options, ending, rfl, written, ends⟩
    obtain ⟨units, unitSettings, run⟩ := ofTokens_of_optionSequence written
    refine ⟨{ units := units ++ [], operands }, ?_, ?_, rfl⟩
    · rw [List.map_append, run, ofTokens_of_ending ends]
      rfl
    · rw [Reading.settings, List.append_nil, unitSettings]

end Reading

/-! ### The whole command line -/

theorem CommandLine.ofArguments_eq_ok_iff {arguments : List Token} {line : CommandLine} :
    ofArguments arguments = .ok line ↔
      ∃ reading, Reading.ofTokens arguments.tail = .ok reading ∧
        line = { settings := Settings.ofList reading.settings, operands := reading.operands } := by
  rw [ofArguments, map_eq_ok_iff]
  simp only [eq_comm]

/-- A command line is accepted exactly when the grammar derives it, and it then settles what the
derived settings ask for and keeps the derived operands. -/
theorem ofArguments_ok_iff_derives (arguments : List String) :
    ((∃ line, CommandLine.ofArguments (arguments.map Token.ofString) = .ok line) ↔
        ∃ occurrences operands, Derives arguments.tail occurrences operands) ∧
      ∀ line, CommandLine.ofArguments (arguments.map Token.ofString) = .ok line ↔
        ∃ occurrences, Derives arguments.tail occurrences line.operands ∧
          line.settings.Settles occurrences := by
  have described (line : CommandLine) :
      CommandLine.ofArguments (arguments.map Token.ofString) = .ok line ↔
        ∃ occurrences, Derives arguments.tail occurrences line.operands ∧
          line.settings.Settles occurrences := by
    rw [CommandLine.ofArguments_eq_ok_iff, ← List.map_tail]
    constructor
    · rintro ⟨reading, accepted, rfl⟩
      exact ⟨reading.settings, Reading.derives_of_ofTokens accepted,
        Settings.settles_ofList reading.settings⟩
    · rintro ⟨occurrences, derived, settled⟩
      obtain ⟨reading, accepted, rfl, operands⟩ := Reading.exists_ofTokens_iff.mpr derived
      refine ⟨reading, accepted, ?_⟩
      rw [operands, ← Settings.settles_iff.mp settled]
  refine ⟨⟨?_, ?_⟩, described⟩
  · rintro ⟨line, accepted⟩
    obtain ⟨occurrences, derived, -⟩ := (described line).mp accepted
    exact ⟨occurrences, line.operands, derived⟩
  · rintro ⟨occurrences, operands, derived⟩
    exact ⟨{ settings := Settings.ofList occurrences, operands },
      (described _).mpr ⟨occurrences, derived, Settings.settles_ofList occurrences⟩⟩

end ThriftCommand
