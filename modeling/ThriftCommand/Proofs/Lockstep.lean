/-
This file proves that the pass over the dashes and the reader of flags agree on every command line
that is accepted. The two walk the tokens apart from each other and do not always see the same: a
cluster that is no option may end in a parameter's letter for the pass, and a flag without its
value makes the pass skip what the reader sees as the next flag. The content here is that each
such token makes the reader refuse the command line. On an accepted one, places and units match
one by one, the values between them are as they were written, and so are the operands.
-/

import ThriftCommand.Proofs.Canonical

namespace ThriftCommand.Spelling

open Token

/-! ### What it is to agree -/

/-- The command line that a layout divides. -/
def Layout.original (layout : Layout) : List Token :=
  layout.places.flatMap (fun place => place.token :: place.value.toList) ++ layout.rest

/-- The text is a flag before the pass and after it, and the pass gives it one more dash exactly
if it is a long flag behind a single one. -/
structure Respelled (text : String) : Prop where
  flagged : (ofString text).Flagged
  canonicalFlagged : (canonical (ofString text)).Flagged
  changed_iff : canonical (ofString text) ≠ ofString text ↔ SingleDash text
  dashed : SingleDash text → canonical (ofString text) = ofString ("-" ++ text)

/-- The places of the pass are the units of the reader, and what the pass left alone holds the
operands. -/
structure Layout.Agrees (layout : Layout) (reading : Reading) : Prop where
  /-- The operands are those from the token on at which the pass stopped. -/
  ending : ∃ texts, layout.rest = texts.map ofString ∧ Ending texts reading.operands
  /-- Every value that the reader took is as it was written. -/
  values : reading.units.map OptionUnit.separate = layout.places.map Place.value
  /-- Every other token is a flag for both. -/
  flags : reading.units.map OptionUnit.token =
    layout.places.map fun place => Spelling.canonical place.token
  respelled : ∀ place ∈ layout.places, ∃ text, place.token = ofString text ∧ Respelled text

theorem Layout.original_ofTokens (tokens : List Token) : (ofTokens tokens).original = tokens := by
  fun_induction Layout.ofTokens tokens with
  | case1 => rfl
  | case2 token rest stopped => rfl
  | case3 token continued awaiting => rfl
  | case4 token continued awaiting value later inductionHypothesis =>
    exact congrArg (token :: value :: ·) inductionHypothesis
  | case5 token rest continued complete inductionHypothesis =>
    exact congrArg (token :: ·) inductionHypothesis

theorem Layout.Agrees.after {layout : Layout} {reading : Reading} (agrees : layout.Agrees reading)
    {place : Place} {unit : OptionUnit} (value : unit.separate = place.value)
    (flag : unit.token = Spelling.canonical place.token) {text : String}
    (spelled : place.token = ofString text) (respelled : Respelled text) :
    (layout.after place).Agrees (reading.after unit) := by
  obtain ⟨ending, values, flags, others⟩ := agrees
  refine ⟨ending, ?_, ?_, ?_⟩
  · exact congr (congrArg List.cons value) values
  · exact congr (congrArg List.cons flag) flags
  · intro other member
    rcases List.mem_cons.mp member with rfl | member
    · exact ⟨text, spelled, respelled⟩
    · exact others other member

/-! ### One token -/

/-- With its second dash a long flag is a flag still. -/
theorem flagged_of_dashed {text : String} (single : SingleDash text) :
    (ofString ("-" ++ text)).Flagged := by
  obtain ⟨flag, rfl | ⟨value, rfl⟩⟩ := single
  · have dashed : "-" ++ ("-" ++ flag.name) = "--" ++ flag.name := by
      rw [← String.append_assoc]
      rfl
    rw [dashed]
    exact (Scan.ofToken_of_long (Scan.shape_name flag)).1
  · have dashed : "-" ++ ("-" ++ flag.name ++ "=" ++ value) =
        "--" ++ flag.name ++ "=" ++ value := by
      simp only [← String.append_assoc]
      rfl
    rw [dashed]
    exact (Scan.ofToken_of_long (Scan.shape_named flag value)).1

/-- Whatever flag stands at a place, the pass gives it a spelling that is a flag again. -/
theorem exists_canonical {text : String} (flagged : (ofString text).Flagged) :
    Respelled text ∧ ∃ spelled, canonical (ofString text) = ofString spelled := by
  by_cases single : SingleDash text
  · have spelled := canonical_of_singleDash single
    have longer : ofString ("-" ++ text) ≠ ofString text := fun same => by
      have sameLength := congrArg List.length same
      simp [ofString, ofChars] at sameLength
    refine ⟨⟨flagged, ?_, ?_, fun _ => spelled⟩, _, spelled⟩
    · rw [spelled]
      exact flagged_of_dashed single
    · exact iff_of_true (by rwa [spelled]) single
  · have spelled := canonical_of_not_singleDash single
    refine ⟨⟨flagged, by rwa [spelled], ?_, fun dashed => absurd dashed single⟩, text, spelled⟩
    exact iff_of_false (fun changed => changed spelled) single

theorem flagged_of_continued {text : String} (continued : stops (ofString text) = false) :
    (ofString text).Flagged := by
  rw [← Bool.not_eq_true, stops_ofString_iff, not_or, ← shape_ofString_eq_operand_iff,
    ← shape_ofString_eq_terminator_iff] at continued
  exact continued

/-- The flag at a place is one unit of the reader, which takes the next token as a value exactly
where the pass does. -/
theorem exists_unit_of_continued {text : String} (continued : stops (ofString text) = false)
    {rest : List Token} {reading : Reading}
    (accepted : Reading.ofTokens (canonical (ofString text) :: rest) = .ok reading) :
    (awaitsValue (ofString text) = false ∧ ∃ settings later, Reading.ofTokens rest = .ok later ∧
        reading = Reading.after { token := canonical (ofString text), settings } later) ∨
      (awaitsValue (ofString text) = true ∧ ∃ value tokens settings later,
        rest = value :: tokens ∧ Reading.ofTokens tokens = .ok later ∧
        reading = Reading.after
          { token := canonical (ofString text), separate := some value, settings } later) := by
  obtain ⟨respelled, spelled, canonicalSpelled⟩ :=
    exists_canonical (flagged_of_continued continued)
  have flagged := respelled.canonicalFlagged
  have awaits {settings : List Setting} {awaiting : Option Parameter}
      (scanned : Scan.ofToken (canonical (ofString text)) = .ok { settings, awaiting }) :
      awaitsValue (ofString text) = awaiting.isSome := by
    rw [canonicalSpelled] at flagged scanned
    exact awaitsValue_of_optionToken canonicalSpelled (Scan.optionToken_iff.mpr ⟨flagged, scanned⟩)
  rcases Reading.exists_unit_of_ofTokens flagged accepted with
    ⟨settings, later, scanned, laterAccepted, rfl⟩ |
    ⟨settings, which, value, valueText, tokens, later, scanned, rfl, -, -, laterAccepted, rfl⟩
  · exact Or.inl ⟨awaits scanned, settings, later, laterAccepted, rfl⟩
  · exact Or.inr ⟨awaits scanned, value, tokens, _, later, rfl, laterAccepted, rfl⟩

/-! ### The whole command line -/

/-- The token at which the pass stops begins the ending. -/
theorem ending_of_stops {text : String} {rest : List String}
    (stopped : stops (ofString text) = true) {reading : Reading}
    (accepted : Reading.ofTokens ((text :: rest).map ofString) = .ok reading) :
    reading.units = [] ∧ Ending (text :: rest) reading.operands := by
  have ends : ∃ operands, Ending (text :: rest) operands := by
    rcases stops_ofString_iff.mp stopped with plain | rfl
    · exact ⟨_, .operands plain rest⟩
    · exact ⟨_, .dashes rest⟩
  obtain ⟨operands, ends⟩ := ends
  rw [Reading.ofTokens_of_ending ends] at accepted
  cases accepted
  exact ⟨rfl, ends⟩

/-- Where the reader accepts what the pass makes of the tokens, the two agree. The pass decides how
many tokens a place has, so the two are compared along its recursion. -/
theorem agrees_of_ofTokens {texts : List String} {reading : Reading}
    (accepted : Reading.ofTokens (Layout.ofTokens (texts.map ofString)).canonical = .ok reading) :
    (Layout.ofTokens (texts.map ofString)).Agrees reading := by
  generalize spelled : texts.map ofString = tokens at accepted ⊢
  fun_induction Layout.ofTokens tokens generalizing texts reading with
  | case1 =>
    cases accepted
    exact ⟨⟨[], rfl, .nothing⟩, rfl, rfl, by simp⟩
  | case2 token rest stopped =>
    obtain ⟨text, later, rfl, rfl, rfl⟩ := List.map_eq_cons_iff.mp spelled
    obtain ⟨noUnits, ends⟩ := ending_of_stops stopped accepted
    exact ⟨⟨text :: later, rfl, ends⟩, by rw [noUnits]; rfl, by rw [noUnits]; rfl, by simp⟩
  | case3 token continued awaits =>
    obtain ⟨text, later, rfl, rfl, -⟩ := List.map_eq_cons_iff.mp spelled
    rw [Bool.not_eq_true] at continued
    have alone : Reading.ofTokens [canonical (ofString text)] = .ok reading := accepted
    rcases exists_unit_of_continued continued alone with ⟨complete, -⟩ |
      ⟨-, value, tokens, settings, later, missing, -⟩
    · rw [awaits] at complete
      cases complete
    · cases missing
  | case4 token continued awaits value later inductionHypothesis =>
    obtain ⟨text, behind, rfl, rfl, behindSpelled⟩ := List.map_eq_cons_iff.mp spelled
    obtain ⟨valueText, texts, rfl, rfl, laterSpelled⟩ := List.map_eq_cons_iff.mp behindSpelled
    rw [Bool.not_eq_true] at continued
    rw [Layout.canonical_after] at accepted
    rcases exists_unit_of_continued continued accepted with ⟨complete, -⟩ |
      ⟨-, taken, tokens, settings, laterReading, rest, laterAccepted, rfl⟩
    · rw [awaits] at complete
      cases complete
    · cases rest
      have agrees := inductionHypothesis laterSpelled laterAccepted
      exact agrees.after rfl rfl rfl (exists_canonical (flagged_of_continued continued)).1
  | case5 token rest continued complete inductionHypothesis =>
    obtain ⟨text, texts, rfl, rfl, restSpelled⟩ := List.map_eq_cons_iff.mp spelled
    rw [Bool.not_eq_true] at continued
    rw [Layout.canonical_after] at accepted
    rcases exists_unit_of_continued continued accepted with
      ⟨-, settings, laterReading, laterAccepted, rfl⟩ | ⟨awaits, -⟩
    · have agrees := inductionHypothesis restSpelled laterAccepted
      exact agrees.after rfl rfl rfl (exists_canonical (flagged_of_continued continued)).1
    · exact absurd awaits complete

/-- On an accepted command line the pass and the reader agree on what is a flag, what is its value
and where the operands begin. -/
theorem layout_agrees_of_accepted (arguments : List String) (line : CommandLine)
    (accepted : CommandLine.ofArguments (canonicalArguments (arguments.map ofString)) =
      .ok line) :
    ∃ layout reading,
      layout = Layout.ofTokens (arguments.map ofString).tail ∧
      layout.original = (arguments.map ofString).tail ∧
      layout.canonical = (canonicalArguments (arguments.map ofString)).tail ∧
      Reading.ofTokens layout.canonical = .ok reading ∧
      line = { settings := Settings.ofList reading.settings, operands := reading.operands } ∧
      layout.Agrees reading := by
  obtain ⟨reading, read, settled⟩ := CommandLine.ofArguments_eq_ok_iff.mp accepted
  have passed : (Layout.ofTokens (arguments.map ofString).tail).canonical =
      (canonicalArguments (arguments.map ofString)).tail := by
    cases arguments <;> rfl
  rw [← passed] at read
  refine ⟨_, reading, rfl, Layout.original_ofTokens _, passed, read, settled, ?_⟩
  rw [← List.map_tail] at read ⊢
  exact agrees_of_ofTokens read

/-- A single dash, a cluster that takes a lone dash, and an operand that looks like a flag. -/
theorem layout_agrees_of_mixed_spellings :
    CommandLine.ofArguments (canonicalArguments
        (["thriftgen", "-verbose", "-ro", "-", "--", "-quiet"].map ofString)) =
      .ok { settings := { recurse := true, verbose := true, output := some "-" }
            operands := ["-quiet"] } ∧
    ∃ layout reading,
      layout = Layout.ofTokens (["-verbose", "-ro", "-", "--", "-quiet"].map ofString) ∧
      layout.Agrees reading ∧ reading.operands = ["-quiet"] := by
  have accepted : CommandLine.ofArguments (canonicalArguments
        (["thriftgen", "-verbose", "-ro", "-", "--", "-quiet"].map ofString)) =
      .ok { settings := { recurse := true, verbose := true, output := some "-" }
            operands := ["-quiet"] } := rfl
  obtain ⟨layout, reading, divided, -, -, -, settled, agrees⟩ :=
    layout_agrees_of_accepted _ _ accepted
  exact ⟨accepted, layout, reading, divided, agrees,
    (congrArg CommandLine.operands settled).symm⟩

end ThriftCommand.Spelling
