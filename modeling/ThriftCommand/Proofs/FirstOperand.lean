/-
This file proves where the pass over the dashes stops, for arguments that need not decode. Behind
flags and the values that the pass takes for them, the first argument that does not look like a flag
is kept with everything behind it, as long as it decodes.

The pass only recognizes an operand that decodes. One that does not is kept as well, but the pass
goes on behind it, so a long flag that follows it still gets its second dash. The content here is
that this is the only way in which the pass gets past an operand.
-/

import ThriftCommand.Proofs.SecondPass

namespace ThriftCommand.Spelling

open Token

/-! ### Arguments that look like flags -/

/-- The bytes look like a flag: they begin with a dash, and are not one dash or two alone. -/
def LooksFlagged (bytes : List UInt8) : Prop :=
  bytes.head? = some 0x2D ∧ bytes ≠ [0x2D] ∧ bytes ≠ [0x2D, 0x2D]

instance (bytes : List UInt8) : Decidable (LooksFlagged bytes) :=
  inferInstanceAs (Decidable (_ ∧ _))

theorem flagged_iff {token : Token} :
    token.Flagged ↔ token.head? = some (.char '-') ∧ token ≠ ofString "-" ∧
      token ≠ ofString "--" := by
  rcases token with _ | ⟨first, _ | ⟨second, rest⟩⟩
  · simp [Flagged, shape]
  · simp [Flagged, shape, ofString, ofChars]
  · by_cases dash : first = .char '-'
    · subst dash
      by_cases double : second = .char '-'
      · subst double
        cases rest <;> simp [Flagged, shape, ofString, ofChars]
      · simp [Flagged, shape, ofString, ofChars, double]
    · simp [Flagged, shape, dash]

/-- What looks like a flag is one where a flag may stand, whether it decodes or not. -/
theorem flagged_ofBytes_iff {bytes : List UInt8} :
    (ofBytes bytes).Flagged ↔ LooksFlagged bytes := by
  have begins : (ofBytes bytes).head? = some (.char '-') ↔ bytes.head? = some 0x2D := by
    constructor
    · intro dash
      obtain ⟨rest, spelled⟩ := List.head?_eq_some_iff.mp dash
      obtain ⟨later, rfl, -⟩ := eq_dash_of_ofBytes spelled
      rfl
    · intro dash
      obtain ⟨rest, rfl⟩ := List.head?_eq_some_iff.mp dash
      rw [ofBytes_dash, List.head?_cons]
  have one : utf8 "-" = [0x2D] := utf8_dash_append ""
  have two : utf8 "--" = [0x2D, 0x2D] := (utf8_dash_append "-").trans (congrArg _ one)
  rw [flagged_iff, begins, Ne, Ne, ofBytes_eq_ofString_iff, ofBytes_eq_ofString_iff, one, two]
  rfl

theorem isSome_chars?_ofBytes_iff {bytes : List UInt8} :
    (ofBytes bytes).chars?.isSome = true ↔ ∃ text, bytes = utf8 text := by
  rw [Option.isSome_iff_exists]
  constructor
  · rintro ⟨chars, decoded⟩
    refine ⟨String.ofList chars, ofBytes_eq_ofString_iff.mp ?_⟩
    rw [chars?_eq_some_iff.mp decoded, ofString, String.toList_ofList]
  · rintro ⟨text, rfl⟩
    exact ⟨text.toList, chars?_eq_some_iff.mpr (ofBytes_utf8 text)⟩

theorem stops_ofBytes_iff {bytes : List UInt8} :
    stops (ofBytes bytes) = true ↔ ¬ LooksFlagged bytes ∧ ∃ text, bytes = utf8 text := by
  rw [stops, Bool.and_eq_true, isSome_chars?_ofBytes_iff, ← flagged_ofBytes_iff, Flagged,
    not_and_or, not_ne_iff, not_ne_iff, Bool.or_eq_true, decide_eq_true_iff, decide_eq_true_iff,
    and_comm]

/-! ### Flags with their values -/

/-- Arguments that look like flags, each with the separate value that the pass takes for it. -/
inductive FlagsWithValues : List (List UInt8) → Prop
  | nil : FlagsWithValues []
  | complete {token : List UInt8} (flag : LooksFlagged token)
      (complete : awaitsValue (ofBytes token) = false) {others : List (List UInt8)}
      (later : FlagsWithValues others) :
    FlagsWithValues (token :: others)
  | separate {token : List UInt8} (flag : LooksFlagged token)
      (awaits : awaitsValue (ofBytes token) = true) (value : List UInt8)
      {others : List (List UInt8)} (later : FlagsWithValues others) :
    FlagsWithValues (token :: value :: others)

/-- The pass goes on behind flags with their values as if nothing stood before. -/
theorem canonical_of_flagsWithValues {options : List (List UInt8)}
    (passed : FlagsWithValues options) (rest : List Token) :
    (Layout.ofTokens (options.map ofBytes ++ rest)).canonical =
      (Layout.ofTokens (options.map ofBytes)).canonical ++ (Layout.ofTokens rest).canonical := by
  induction passed with
  | nil => rfl
  | complete flag complete _ inductionHypothesis =>
    have continued := stops_eq_false (flagged_ofBytes_iff.mpr flag)
    rw [List.map_cons, List.cons_append, Layout.ofTokens_complete continued complete,
      Layout.ofTokens_complete continued complete, Layout.canonical_after, Layout.canonical_after,
      inductionHypothesis]
    rfl
  | separate flag awaits value _ inductionHypothesis =>
    have continued := stops_eq_false (flagged_ofBytes_iff.mpr flag)
    rw [List.map_cons, List.map_cons, List.cons_append, List.cons_append,
      Layout.ofTokens_separate continued awaits, Layout.ofTokens_separate continued awaits,
      Layout.canonical_after, Layout.canonical_after, inductionHypothesis]
    rfl

theorem canonicalBytes_append {options : List (List UInt8)} (passed : FlagsWithValues options)
    (program : List UInt8) (rest : List (List UInt8)) :
    canonicalBytes (program :: (options ++ rest)) =
      canonicalBytes (program :: options) ++ (canonicalBytes (program :: rest)).tail := by
  rw [canonicalBytes_cons, canonicalBytes_cons, canonicalBytes_cons, List.map_append,
    canonical_of_flagsWithValues passed, List.map_append, List.tail_cons, List.cons_append]

/-! ### The first operand -/

section

variable {first : List UInt8} (program : List UInt8) (rest : List (List UInt8))

/-- An operand that decodes is kept with everything behind it. -/
theorem tail_canonicalBytes_of_decoded (operand : ¬ LooksFlagged first)
    (decoded : ∃ text, first = utf8 text) :
    (canonicalBytes (program :: first :: rest)).tail = first :: rest := by
  have stopped := stops_ofBytes_iff.mpr ⟨operand, decoded⟩
  have kept : ((first :: rest).map ofBytes).map toBytes = first :: rest := by
    simp [Function.comp_def, toBytes_ofBytes]
  rw [canonicalBytes_cons, List.map_cons, Layout.ofTokens_of_stops stopped]
  exact kept

/-- An operand that does not decode is kept by itself, and the pass goes on behind it. -/
theorem tail_canonicalBytes_of_undecoded (undecoded : ¬ ∃ text, first = utf8 text) :
    (canonicalBytes (program :: first :: rest)).tail =
      first :: (canonicalBytes (program :: rest)).tail := by
  have noText : (ofBytes first).chars? = none := by
    rwa [← isSome_chars?_ofBytes_iff, Option.not_isSome_iff_eq_none] at undecoded
  have same : canonical (ofBytes first) = ofBytes first := by rw [canonical, noText]
  have continued : stops (ofBytes first) = false := by rw [stops, noText]; rfl
  have complete : awaitsValue (ofBytes first) = false := by rw [awaitsValue, same, noText]
  rw [canonicalBytes_cons, canonicalBytes_cons, List.map_cons,
    Layout.ofTokens_complete continued complete, Layout.canonical_after, same]
  exact congrArg (· :: _) (toBytes_ofBytes first)

end

/-- Behind flags and their values, an argument that does not look like a flag is kept. If it
decodes, so is everything behind it. If it does not, the pass goes on, and the rest is kept exactly
where nothing in it would be changed at the front of a command line either. -/
theorem canonicalBytes_of_operand {options : List (List UInt8)} (passed : FlagsWithValues options)
    {first : List UInt8} (operand : ¬ LooksFlagged first) (program : List UInt8)
    (rest : List (List UInt8)) :
    ((∃ text, first = utf8 text) →
        canonicalBytes (program :: (options ++ first :: rest)) =
          canonicalBytes (program :: options) ++ first :: rest) ∧
      ((¬ ∃ text, first = utf8 text) →
        canonicalBytes (program :: (options ++ first :: rest)) =
          canonicalBytes (program :: options) ++ first ::
            (canonicalBytes (program :: rest)).tail) ∧
      ((canonicalBytes (program :: (options ++ first :: rest))).drop (options.length + 1) =
          first :: rest ↔
        (∃ text, first = utf8 text) ∨ canonicalBytes (program :: rest) = program :: rest) := by
  have split := canonicalBytes_append passed program (first :: rest)
  have before : (canonicalBytes (program :: options)).length = options.length + 1 :=
    length_canonicalBytes (program :: options)
  have behind : (canonicalBytes (program :: (options ++ first :: rest))).drop (options.length + 1) =
      (canonicalBytes (program :: first :: rest)).tail := by
    rw [split, ← before, List.drop_left]
  have unchanged : (canonicalBytes (program :: rest)).tail = rest ↔
      canonicalBytes (program :: rest) = program :: rest := by
    rw [canonicalBytes_cons, List.tail_cons, List.cons_inj_right]
  refine ⟨fun decoded => ?_, fun undecoded => ?_, ?_⟩
  · rw [split, tail_canonicalBytes_of_decoded program rest operand decoded]
  · rw [split, tail_canonicalBytes_of_undecoded program rest undecoded]
  · rw [behind]
    by_cases decoded : ∃ text, first = utf8 text
    · rw [tail_canonicalBytes_of_decoded program rest operand decoded]
      simp [decoded]
    · rw [tail_canonicalBytes_of_undecoded program rest decoded, List.cons_inj_right, unchanged]
      simp [decoded]

/-- A directory that does not decode is passed over, and so is a flag that does not. Behind an
operand that decodes a long flag keeps its single dash. -/
theorem canonicalBytes_of_operand_behind_bytes :
    FlagsWithValues [utf8 "-ro", [0xFF], [0x2D, 0xFE]] ∧
      ¬ LooksFlagged (utf8 "a.thrift") ∧
      (canonicalBytes [utf8 "thriftgen", utf8 "-ro", [0xFF], [0x2D, 0xFE], utf8 "a.thrift",
          utf8 "-out"]).drop 4 = [utf8 "a.thrift", utf8 "-out"] := by
  have passed : FlagsWithValues [utf8 "-ro", [0xFF], [0x2D, 0xFE]] :=
    .separate (by decide) (by decide) _ (.complete (by decide) (by decide) .nil)
  have operand : ¬ LooksFlagged (utf8 "a.thrift") := by decide
  obtain ⟨-, -, kept⟩ :=
    canonicalBytes_of_operand passed operand (utf8 "thriftgen") [utf8 "-out"]
  exact ⟨passed, operand, kept.mpr (Or.inl ⟨"a.thrift", rfl⟩)⟩

/-- Bytes that do not decode and do not begin with a dash are an operand, but the pass gives the
flag behind them its second dash. -/
theorem canonicalBytes_behind_undecoded_operand :
    FlagsWithValues [] ∧ ¬ LooksFlagged [0xFF] ∧
      canonicalBytes [utf8 "thriftgen", [0xFF], utf8 "-out"] =
        [utf8 "thriftgen", [0xFF], utf8 "--out"] ∧
      (canonicalBytes [utf8 "thriftgen", [0xFF], utf8 "-out"]).drop 1 ≠ [[0xFF], utf8 "-out"] := by
  have passed : canonicalBytes [utf8 "thriftgen", [0xFF], utf8 "-out"] =
      [utf8 "thriftgen", [0xFF], utf8 "--out"] := by
    rw [canonicalBytes]
    simp only [← toBytes_ofString]
    rfl
  refine ⟨.nil, by decide, passed, ?_⟩
  rw [passed]
  decide

end ThriftCommand.Spelling
