/-
This file proves that the pass over the dashes settles the spelling. A second pass changes nothing,
and it does not matter which of the long flags at places for flags were written with one dash and
which with two: the result is the same. That holds for any arguments, whether they decode or not.

Respelling a flag changes what its token looks like, from letters to a long flag. The content here
is that the pass sees the same places all the same. Where a place is and whether it takes the next
token are decided on the token with its second dash, so two command lines that differ only in
spelling are divided alike.
-/

import Mathlib.Data.List.Forall2
import ThriftCommand.Invocation
import ThriftCommand.Proofs.Bytes
import ThriftCommand.Proofs.Lockstep

namespace ThriftCommand.Spelling

open Token

/-! ### One token -/

/-- The pass changes a token only where it spells a long flag behind a single dash. -/
theorem canonical_eq_or (token : Token) :
    canonical token = token ∨
      ∃ text, SingleDash text ∧ token = ofString text ∧
        canonical token = ofString ("-" ++ text) := by
  cases decoded : token.text? with
  | none =>
    have undecoded : token.chars? = none := by simpa [text?] using decoded
    exact Or.inl (by rw [canonical, undecoded])
  | some text =>
    obtain rfl := text?_eq_some_iff.mp decoded
    by_cases single : SingleDash text
    · exact Or.inr ⟨text, single, rfl, canonical_of_singleDash single⟩
    · exact Or.inl (canonical_of_not_singleDash single)

theorem canonical_canonical (token : Token) : canonical (canonical token) = canonical token := by
  rcases canonical_eq_or token with same | ⟨text, single, -, dashed⟩
  · rw [same, same]
  · rw [dashed, canonical_of_not_singleDash (not_singleDash_dashed single)]

/-- A second dash does not end the places for flags. -/
theorem stops_canonical (token : Token) : stops (canonical token) = stops token := by
  rcases canonical_eq_or token with same | ⟨text, single, rfl, dashed⟩
  · rw [same]
  · rw [dashed, stops_eq_false (flagged_of_dashed single),
      stops_eq_false (flagged_of_singleDash single)]

/-! ### Places in another spelling -/

/-- The places hold the same flag, in spellings that the pass makes the same, and the same value. -/
structure Place.Alike (place other : Place) : Prop where
  canonical : Spelling.canonical other.token = Spelling.canonical place.token
  value : other.value = place.value

section

variable {place other : Place} (alike : place.Alike other)

include alike

theorem Place.Alike.stops : stops other.token = stops place.token := by
  rw [← stops_canonical, alike.canonical, stops_canonical]

theorem Place.Alike.awaitsValue : awaitsValue other.token = awaitsValue place.token := by
  rw [Spelling.awaitsValue, Spelling.awaitsValue, alike.canonical]

end

namespace Layout

theorem original_after (place : Place) (layout : Layout) :
    (layout.after place).original = place.token :: (place.value.toList ++ layout.original) := by
  simp [Layout.original, Layout.after]

/-- Two divisions of command lines differ in the spelling of flags only. -/
structure Alike (layout other : Layout) : Prop where
  places : List.Forall₂ Place.Alike layout.places other.places
  rest : other.rest = layout.rest

/-- A division that is alike has an alike place wherever the other has a place. -/
theorem Alike.exists_after {place : Place} {layout other : Layout}
    (alike : (layout.after place).Alike other) :
    ∃ first later, other = later.after first ∧ place.Alike first ∧ layout.Alike later := by
  obtain ⟨places, rest⟩ := other
  obtain ⟨alikePlaces, same⟩ := alike
  obtain ⟨first, others, alikePlace, alikeOthers, rfl⟩ := List.forall₂_cons_left_iff.mp alikePlaces
  exact ⟨first, { places := others, rest }, rfl, alikePlace, alikeOthers, same⟩

theorem Alike.eq_of_places_nil {rest : List Token} {other : Layout}
    (alike : Layout.Alike { places := [], rest } other) : other = { places := [], rest } := by
  obtain ⟨places, others⟩ := other
  obtain ⟨⟨⟩, rfl⟩ := alike
  rfl

/-- What is written like this in another spelling is divided in the same places. The pass decides
how many tokens a place has, so the two spellings are compared along its recursion. -/
theorem ofTokens_original_of_alike {tokens : List Token} {other : Layout}
    (alike : (ofTokens tokens).Alike other) : ofTokens other.original = other := by
  fun_induction ofTokens tokens generalizing other with
  | case1 =>
    rw [alike.eq_of_places_nil]
    rfl
  | case2 token rest stopped =>
    rw [alike.eq_of_places_nil]
    exact ofTokens_of_stops stopped rest
  | case3 token continued awaits =>
    have single : (Layout.after { token } { places := [], rest := [] }).Alike other := alike
    obtain ⟨⟨first, _⟩, later, rfl, alikePlace, alikeLater⟩ := single.exists_after
    obtain rfl := alikePlace.value
    rw [← alikePlace.stops, Bool.not_eq_true] at continued
    rw [alikeLater.eq_of_places_nil]
    exact ofTokens_last continued
  | case4 token continued awaits value later inductionHypothesis =>
    obtain ⟨⟨first, _⟩, others, rfl, alikePlace, alikeLater⟩ := alike.exists_after
    obtain rfl := alikePlace.value
    rw [← alikePlace.stops, Bool.not_eq_true] at continued
    rw [← alikePlace.awaitsValue] at awaits
    rw [original_after]
    exact (ofTokens_separate continued awaits value others.original).trans
      (by rw [inductionHypothesis alikeLater])
  | case5 token rest continued complete inductionHypothesis =>
    obtain ⟨⟨first, _⟩, others, rfl, alikePlace, alikeLater⟩ := alike.exists_after
    obtain rfl := alikePlace.value
    rw [← alikePlace.stops, Bool.not_eq_true] at continued
    rw [← alikePlace.awaitsValue, Bool.not_eq_true] at complete
    rw [original_after]
    exact (ofTokens_complete continued complete others.original).trans
      (by rw [inductionHypothesis alikeLater])

theorem Alike.canonical_eq {layout other : Layout} (alike : layout.Alike other) :
    other.canonical = layout.canonical := by
  obtain ⟨places, rest⟩ := layout
  obtain ⟨others, otherRest⟩ := other
  obtain ⟨alikePlaces, same⟩ := alike
  dsimp only at alikePlaces same
  rw [Layout.canonical, Layout.canonical, same]
  induction alikePlaces with
  | nil => rfl
  | cons first _ inductionHypothesis =>
    rw [List.append_cancel_right_eq] at inductionHypothesis ⊢
    rw [List.flatMap_cons, List.flatMap_cons, inductionHypothesis, first.canonical, first.value]

/-- The pass makes the same of two command lines that differ in the spelling of flags only. -/
theorem canonical_of_alike {tokens : List Token} {other : Layout}
    (alike : (ofTokens tokens).Alike other) :
    (ofTokens other.original).canonical = (ofTokens tokens).canonical := by
  rw [ofTokens_original_of_alike alike, alike.canonical_eq]

/-- The layout with every flag spelled with two dashes. -/
def respelled (layout : Layout) : Layout :=
  { layout with
    places := layout.places.map fun place =>
      { place with token := Spelling.canonical place.token } }

theorem original_respelled (layout : Layout) : layout.respelled.original = layout.canonical := by
  rw [Layout.original, respelled, List.flatMap_map]
  rfl

theorem alike_respelled (layout : Layout) : layout.Alike layout.respelled := by
  refine ⟨?_, rfl⟩
  rw [respelled, List.forall₂_map_right_iff, List.forall₂_same]
  exact fun place _ => ⟨canonical_canonical place.token, rfl⟩

/-- A second pass changes nothing. -/
theorem canonical_ofTokens_canonical (tokens : List Token) :
    (ofTokens (ofTokens tokens).canonical).canonical = (ofTokens tokens).canonical := by
  have again := canonical_of_alike (alike_respelled (ofTokens tokens))
  rwa [original_respelled] at again

/-- Token by token, the pass adds a dash or nothing. -/
theorem forall₂_canonical (tokens : List Token) :
    List.Forall₂ (fun token passed => passed = token ∨ passed = Spelling.canonical token) tokens
      (ofTokens tokens).canonical := by
  fun_induction ofTokens tokens with
  | case1 => exact .nil
  | case2 token rest stopped => exact List.forall₂_same.mpr fun _ _ => Or.inl rfl
  | case3 token continued awaits => exact .cons (Or.inr rfl) .nil
  | case4 token continued awaits value later inductionHypothesis =>
    rw [canonical_after]
    exact .cons (Or.inr rfl) (.cons (Or.inl rfl) inductionHypothesis)
  | case5 token rest continued complete inductionHypothesis =>
    rw [canonical_after]
    exact .cons (Or.inr rfl) inductionHypothesis

end Layout

theorem canonicalArguments_canonicalArguments (arguments : List Token) :
    canonicalArguments (canonicalArguments arguments) = canonicalArguments arguments := by
  cases arguments with
  | nil => rfl
  | cons program tokens =>
    exact congrArg (program :: ·) (Layout.canonical_ofTokens_canonical tokens)

/-! ### Long flags with one dash or two -/

/-- A place stays as it is, or the long flag there loses one of its two dashes. -/
inductive Place.Shortened : Place → Place → Prop
  | kept (place : Place) : Shortened place place
  | shortened {text : String} (single : SingleDash text) (value : Option Token) :
    Shortened { token := ofString ("-" ++ text), value } { token := ofString text, value }

/-- Some of the long flags at places for flags lose one of their two dashes. -/
structure Layout.Shortened (layout other : Layout) : Prop where
  places : List.Forall₂ Place.Shortened layout.places other.places
  rest : other.rest = layout.rest

theorem Place.Shortened.alike {place other : Place} (shorter : place.Shortened other) :
    place.Alike other := by
  cases shorter with
  | kept => exact ⟨rfl, rfl⟩
  | shortened single =>
    refine ⟨?_, rfl⟩
    rw [canonical_of_singleDash single,
      canonical_of_not_singleDash (not_singleDash_dashed single)]

theorem Layout.Shortened.alike {layout other : Layout} (shorter : layout.Shortened other) :
    layout.Alike other :=
  ⟨shorter.places.imp fun _ _ => Place.Shortened.alike, shorter.rest⟩

/-! ### Arguments as bytes -/

/-- The bytes of the arguments, program name first, with every long flag spelled with two dashes. -/
def canonicalBytes (arguments : List (List UInt8)) : List (List UInt8) :=
  (canonicalArguments (arguments.map ofBytes)).map toBytes

/-- The bytes stay as they are, or they are the text of a long flag behind a single dash and get one
more dash in front. -/
inductive DashAdded : List UInt8 → List UInt8 → Prop
  | kept (bytes : List UInt8) : DashAdded bytes bytes
  | added {text : String} (single : SingleDash text) : DashAdded (utf8 text) (0x2D :: utf8 text)

/-- The arguments are the same but for some of the long flags at places for flags, which lose one of
their two dashes. -/
structure SpelledShorter (arguments others : List (List UInt8)) : Prop where
  program : others.head? = arguments.head?
  flags : ∃ layout, (Layout.ofTokens (arguments.tail.map ofBytes)).Shortened layout ∧
    others.tail.map ofBytes = layout.original

theorem dashAdded_canonical (bytes : List UInt8) :
    ofBytes (toBytes (canonical (ofBytes bytes))) = canonical (ofBytes bytes) ∧
      DashAdded bytes (toBytes (canonical (ofBytes bytes))) := by
  rcases canonical_eq_or (ofBytes bytes) with same | ⟨text, single, spelled, dashed⟩
  · rw [same, toBytes_ofBytes]
    exact ⟨rfl, .kept bytes⟩
  · obtain rfl := ofBytes_eq_ofString_iff.mp spelled
    rw [dashed, toBytes_ofString, ofBytes_utf8, utf8_dash_append]
    exact ⟨rfl, .added single⟩

theorem canonicalBytes_cons (program : List UInt8) (rest : List (List UInt8)) :
    canonicalBytes (program :: rest) =
      program :: (Layout.ofTokens (rest.map ofBytes)).canonical.map toBytes := by
  rw [canonicalBytes, List.map_cons, canonicalArguments, List.map_cons, toBytes_ofBytes]

/-- Argument by argument, the pass yields what bytes can spell, and adds a dash or nothing. -/
theorem forall₂_dashAdded (rest : List (List UInt8)) :
    List.Forall₂ (fun bytes passed => ofBytes (toBytes passed) = passed ∧
        DashAdded bytes (toBytes passed))
      rest (Layout.ofTokens (rest.map ofBytes)).canonical := by
  refine (List.forall₂_map_left_iff.mp (Layout.forall₂_canonical (rest.map ofBytes))).imp ?_
  rintro bytes passed (rfl | rfl)
  · rw [toBytes_ofBytes]
    exact ⟨rfl, .kept bytes⟩
  · exact dashAdded_canonical bytes

/-- The bytes that the pass yields are read as the tokens that it made. -/
theorem map_ofBytes_canonicalBytes (arguments : List (List UInt8)) :
    (canonicalBytes arguments).map ofBytes = canonicalArguments (arguments.map ofBytes) := by
  cases arguments with
  | nil => rfl
  | cons program rest =>
    rw [canonicalBytes_cons, List.map_cons, List.map_cons, canonicalArguments]
    congr 1
    have spelled := forall₂_dashAdded rest
    generalize (Layout.ofTokens (rest.map ofBytes)).canonical = passed at spelled
    induction spelled with
    | nil => rfl
    | cons first _ inductionHypothesis =>
      rw [List.map_cons, List.map_cons, first.1, inductionHypothesis]

theorem canonicalBytes_of_spelledShorter {arguments others : List (List UInt8)}
    (shorter : SpelledShorter arguments others) :
    canonicalBytes others = canonicalBytes arguments := by
  obtain ⟨sameProgram, layout, shortened, spelled⟩ := shorter
  cases arguments with
  | nil => rw [List.head?_eq_none_iff.mp sameProgram]
  | cons program rest =>
    obtain ⟨later, rfl⟩ := List.head?_eq_some_iff.mp sameProgram
    rw [List.tail_cons] at shortened spelled
    rw [canonicalBytes_cons, canonicalBytes_cons, spelled,
      Layout.canonical_of_alike shortened.alike]

theorem length_canonicalBytes (arguments : List (List UInt8)) :
    (canonicalBytes arguments).length = arguments.length := by
  cases arguments with
  | nil => rfl
  | cons program rest =>
    rw [canonicalBytes_cons, List.length_cons, List.length_cons, List.length_map,
      (forall₂_dashAdded rest).length_eq]

/-- The pass settles the spelling of any arguments, which need not decode. It keeps their number and
the program's name, and adds at most the second dash of a long flag to each of the others. Nothing
is left for a second pass, flags that are given with one dash come out as those with two, and so a
command line asks for the same before and after the pass. -/
theorem canonicalBytes_settles (arguments : List (List UInt8)) :
    (canonicalBytes arguments).length = arguments.length ∧
      (canonicalBytes arguments).head? = arguments.head? ∧
      List.Forall₂ DashAdded arguments.tail (canonicalBytes arguments).tail ∧
      canonicalBytes (canonicalBytes arguments) = canonicalBytes arguments ∧
      (∀ others, SpelledShorter arguments others →
        canonicalBytes others = canonicalBytes arguments) ∧
      Invocation.ofArguments ((canonicalBytes arguments).map ofBytes) =
        Invocation.ofArguments (arguments.map ofBytes) := by
  have elements : (canonicalBytes arguments).head? = arguments.head? ∧
      List.Forall₂ DashAdded arguments.tail (canonicalBytes arguments).tail := by
    cases arguments with
    | nil => exact ⟨rfl, .nil⟩
    | cons program rest =>
      rw [canonicalBytes_cons]
      exact ⟨rfl, List.forall₂_map_right_iff.mpr
        ((forall₂_dashAdded rest).imp fun _ _ => And.right)⟩
  refine ⟨length_canonicalBytes arguments, elements.1, elements.2, ?_,
    fun others => canonicalBytes_of_spelledShorter, ?_⟩
  · rw [canonicalBytes, map_ofBytes_canonicalBytes, canonicalArguments_canonicalArguments,
      canonicalBytes]
  · rw [map_ofBytes_canonicalBytes, Invocation.ofArguments, canonicalArguments_canonicalArguments,
      Invocation.ofArguments]

/-- A directory that looks like a flag is left alone, and so is what follows the operand. Bytes that
do not decode are passed over. -/
theorem canonicalBytes_settles_mixed :
    SpelledShorter
        [utf8 "thriftgen", utf8 "--out", utf8 "-quiet", [0xFF], utf8 "--quiet=1", utf8 "a",
          utf8 "-help"]
        [utf8 "thriftgen", utf8 "-out", utf8 "-quiet", [0xFF], utf8 "-quiet=1", utf8 "a",
          utf8 "-help"] ∧
      canonicalBytes
          [utf8 "thriftgen", utf8 "-out", utf8 "-quiet", [0xFF], utf8 "-quiet=1", utf8 "a",
            utf8 "-help"] =
        [utf8 "thriftgen", utf8 "--out", utf8 "-quiet", [0xFF], utf8 "--quiet=1", utf8 "a",
          utf8 "-help"] := by
  have out : SingleDash "-out" := ⟨.parameter .output, Or.inl rfl⟩
  have quiet : SingleDash "-quiet=1" := ⟨.switch .quiet, Or.inr ⟨"1", rfl⟩⟩
  have shorter : SpelledShorter
      [utf8 "thriftgen", utf8 "--out", utf8 "-quiet", [0xFF], utf8 "--quiet=1", utf8 "a",
        utf8 "-help"]
      [utf8 "thriftgen", utf8 "-out", utf8 "-quiet", [0xFF], utf8 "-quiet=1", utf8 "a",
        utf8 "-help"] := by
    refine ⟨rfl, { places := [⟨ofString "-out", some (ofString "-quiet")⟩, ⟨[.stray [0xFF]], none⟩,
      ⟨ofString "-quiet=1", none⟩], rest := [ofString "a", ofString "-help"] }, ?_, ?_⟩
    · simp only [List.tail_cons, List.map_cons, ofBytes_utf8]
      exact ⟨.cons (.shortened out _) (.cons (.kept _) (.cons (.shortened quiet _) .nil)), rfl⟩
    · simp only [List.tail_cons, List.map_cons, ofBytes_utf8]
      rfl
  obtain ⟨-, -, -, -, insensitive, -⟩ := canonicalBytes_settles
    [utf8 "thriftgen", utf8 "--out", utf8 "-quiet", [0xFF], utf8 "--quiet=1", utf8 "a",
      utf8 "-help"]
  refine ⟨shorter, (insensitive _ shorter).trans ?_⟩
  rw [canonicalBytes]
  simp only [← toBytes_ofString]
  rfl

end ThriftCommand.Spelling
