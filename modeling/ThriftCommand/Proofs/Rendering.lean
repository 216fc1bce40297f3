/-
This file proves that writing a specification back and reading it undo each other on exactly the
specifications that reading yields. There is no escaping, so a separator inside a name, a key or a
value is taken for the end of it when the text is read again. The content here is that nothing
else goes wrong: without such a separator the text says what was written, and with one it never
happens to say the same.

The other way around, a text that was read is what its specification renders as. A lone colon behind
the name is the only thing that reading forgets, so it is also all in which two texts with one
specification differ.
-/

import ThriftCommand.Proofs.Specification

namespace ThriftCommand

/-! ### Specifications that can be written down -/

/-- No part holds the separator that ends it, the name is there, and every option has a key of its
own. -/
structure CompactSpec.WellFormed (spec : CompactSpec) : Prop where
  named : spec.name ≠ ""
  name_uncut : ':' ∉ spec.name.toList
  keyed : SpecOption.Keyed spec.options
  keys_uncut : ∀ option ∈ spec.options, ',' ∉ option.key.toList ∧ '=' ∉ option.key.toList
  values_uncut : ∀ option ∈ spec.options, ∀ value, option.value = some value → ',' ∉ value.toList

/-! ### One option -/

/-- An item writes an option as it is rendered, and in no other way. -/
theorem SpecOption.writtenAs_iff_render {option : SpecOption} {item : String} :
    option.WrittenAs item ↔ item = option.render ∧ '=' ∉ option.key.toList := by
  constructor
  · intro written
    cases written with
    | bare unparted => exact ⟨rfl, unparted⟩
    | valued unparted value => exact ⟨rfl, unparted⟩
  · rintro ⟨rfl, unparted⟩
    obtain ⟨key, value⟩ := option
    cases value with
    | none => exact .bare unparted
    | some value => exact .valued unparted value

/-- A rendered option holds a comma where its key or its value does. -/
theorem SpecOption.comma_notMem_render_iff {option : SpecOption} :
    ',' ∉ option.render.toList ↔
      ',' ∉ option.key.toList ∧ ∀ value, option.value = some value → ',' ∉ value.toList := by
  obtain ⟨key, value⟩ := option
  cases value with
  | none => simp [render]
  | some value => simp [render]

theorem SpecOption.render_ne_empty {option : SpecOption} (keyed : option.key ≠ "") :
    option.render ≠ "" := by
  obtain ⟨key, value⟩ := option
  cases value with
  | none => exact keyed
  | some value => simp [render]

/-! ### All options -/

theorem SpecOption.forall₂_writtenAs_iff {options : List SpecOption} {items : List String} :
    List.Forall₂ WrittenAs options items ↔
      items = options.map render ∧ ∀ option ∈ options, '=' ∉ option.key.toList := by
  constructor
  · intro each
    induction each with
    | nil => simp
    | cons written _ inductionHypothesis =>
      obtain ⟨rfl, unparted⟩ := writtenAs_iff_render.mp written
      obtain ⟨rfl, others⟩ := inductionHypothesis
      exact ⟨rfl, List.forall_mem_cons.mpr ⟨unparted, others⟩⟩
  · rintro ⟨rfl, unparted⟩
    rw [List.forall₂_map_right_iff, List.forall₂_same]
    exact fun option member => writtenAs_iff_render.mpr ⟨rfl, unparted option member⟩

/-- Options that are written somewhere hold no separator that would end them early. -/
theorem uncut_of_optionsWrittenAs {options : List SpecOption} {text : String}
    (written : OptionsWrittenAs options text) :
    ∀ option ∈ options, ',' ∉ option.render.toList ∧ '=' ∉ option.key.toList := by
  cases written with
  | nothing => simp
  | items something cut each =>
    obtain ⟨rfl, unparted⟩ := SpecOption.forall₂_writtenAs_iff.mp each
    exact fun option member =>
      ⟨cut.uncut _ (List.mem_map_of_mem member), unparted option member⟩

/-- Options without such separators are written as they are rendered. -/
theorem optionsWrittenAs_render {first : SpecOption} {rest : List SpecOption}
    (keyed : first.key ≠ "")
    (uncut : ∀ option ∈ first :: rest,
      ',' ∉ option.render.toList ∧ '=' ∉ option.key.toList) :
    OptionsWrittenAs (first :: rest) (",".intercalate ((first :: rest).map SpecOption.render)) := by
  have something : ",".intercalate ((first :: rest).map SpecOption.render) ≠ "" := by
    have spelled := SpecOption.render_ne_empty keyed
    cases rest with
    | nil => simpa using spelled
    | cons second others => simp
  have commas : ∀ item ∈ (first :: rest).map SpecOption.render, ',' ∉ item.toList := by
    intro item member
    obtain ⟨option, optionMember, rfl⟩ := List.mem_map.mp member
    exact (uncut option optionMember).1
  have cut : CutAtCommas (",".intercalate ((first :: rest).map SpecOption.render))
      ((first :: rest).map SpecOption.render) := ⟨by simp, commas, rfl⟩
  exact .items something cut
    (SpecOption.forall₂_writtenAs_iff.mpr ⟨rfl, fun option member => (uncut option member).2⟩)

/-! ### Specifications -/

namespace CompactSpec

theorem WellFormed.uncut {spec : CompactSpec} (wellFormed : spec.WellFormed) :
    ∀ option ∈ spec.options, ',' ∉ option.render.toList ∧ '=' ∉ option.key.toList := by
  intro option member
  obtain ⟨comma, equals⟩ := wellFormed.keys_uncut option member
  exact ⟨SpecOption.comma_notMem_render_iff.mpr ⟨comma, wellFormed.values_uncut option member⟩,
    equals⟩

/-- Whatever is read is well-formed. -/
theorem wellFormed_of_parse {text : String} {spec : CompactSpec}
    (accepted : parse text = .ok spec) : spec.WellFormed := by
  obtain ⟨written, named, keyed⟩ := parse_eq_ok_iff.mp accepted
  have parts : ':' ∉ spec.name.toList ∧
      ∀ option ∈ spec.options, ',' ∉ option.render.toList ∧ '=' ∉ option.key.toList := by
    cases written with
    | alone uncut => exact ⟨uncut, by simp⟩
    | withOptions uncut optionsWritten => exact ⟨uncut, uncut_of_optionsWrittenAs optionsWritten⟩
  obtain ⟨name_uncut, uncut⟩ := parts
  refine ⟨named, name_uncut, keyed, fun option member => ?_, fun option member => ?_⟩
  · obtain ⟨comma, equals⟩ := uncut option member
    exact ⟨(SpecOption.comma_notMem_render_iff.mp comma).1, equals⟩
  · exact (SpecOption.comma_notMem_render_iff.mp (uncut option member).1).2

/-- What is well-formed is written as it is rendered. -/
theorem WellFormed.writtenAs_render {spec : CompactSpec} (wellFormed : spec.WellFormed) :
    spec.WrittenAs spec.render := by
  have uncut := wellFormed.uncut
  obtain ⟨name, options⟩ := spec
  cases options with
  | nil => exact .alone wellFormed.name_uncut
  | cons first rest =>
    have keyed := wellFormed.keyed.nonempty first List.mem_cons_self
    exact .withOptions wellFormed.name_uncut (optionsWrittenAs_render keyed uncut)

theorem WellFormed.parse_render {spec : CompactSpec} (wellFormed : spec.WellFormed) :
    parse spec.render = .ok spec :=
  parse_eq_ok_iff.mpr ⟨wellFormed.writtenAs_render, wellFormed.named, wellFormed.keyed⟩

/-- A specification, however it was made, comes back from its text exactly when no part of it holds
a separator that ends it early, the name is there and every option has a key of its own. These are
exactly the specifications that reading yields. -/
theorem parse_render_iff (spec : CompactSpec) :
    (parse spec.render = .ok spec ↔ spec.WellFormed) ∧
      ((∃ text, parse text = .ok spec) ↔ spec.WellFormed) := by
  refine ⟨⟨wellFormed_of_parse, WellFormed.parse_render⟩, ?_, ?_⟩
  · rintro ⟨text, accepted⟩
    exact wellFormed_of_parse accepted
  · exact fun wellFormed => ⟨spec.render, wellFormed.parse_render⟩

/-! ### Texts with one specification -/

/-- A text writes a specification as it is rendered. A name alone may have a colon behind it. -/
theorem eq_render_of_writtenAs {spec : CompactSpec} {text : String}
    (written : spec.WrittenAs text) :
    text = spec.render ∨ spec.options = [] ∧ text = spec.render ++ ":" := by
  cases written with
  | alone uncut => exact Or.inl rfl
  | @withOptions name uncut options text optionsWritten =>
    cases optionsWritten with
    | nothing => exact Or.inr ⟨rfl, by simp [render]⟩
    | items something cut each =>
      obtain ⟨rfl, -⟩ := SpecOption.forall₂_writtenAs_iff.mp each
      obtain ⟨first, rest, rfl⟩ := List.exists_cons_of_ne_nil
        (List.map_eq_nil_iff.not.mp cut.nonempty)
      rw [cut.joined]
      exact Or.inl rfl

theorem WellFormed.writtenAs_colon {spec : CompactSpec} (wellFormed : spec.WellFormed)
    (optionless : spec.options = []) : spec.WrittenAs (spec.render ++ ":") := by
  obtain ⟨name, options⟩ := spec
  subst optionless
  have written := CompactSpec.WrittenAs.withOptions wellFormed.name_uncut .nothing
  rwa [String.append_empty] at written

/-- The texts that are read as a specification are its rendering and, for a name alone, the name
with a colon behind it. -/
theorem parse_eq_ok_iff_render {spec : CompactSpec} {text : String} :
    parse text = .ok spec ↔
      spec.WellFormed ∧ (text = spec.render ∨ spec.options = [] ∧ text = spec.render ++ ":") := by
  constructor
  · intro read
    exact ⟨wellFormed_of_parse read, eq_render_of_writtenAs (parse_eq_ok_iff.mp read).1⟩
  · rintro ⟨wellFormed, rfl | ⟨optionless, rfl⟩⟩
    · exact wellFormed.parse_render
    · exact parse_eq_ok_iff.mpr
        ⟨wellFormed.writtenAs_colon optionless, wellFormed.named, wellFormed.keyed⟩

theorem render_of_optionless {spec : CompactSpec} (optionless : spec.options = []) :
    spec.render = spec.name := by
  rw [render, optionless]

/-- A text without options that ends with a colon ends with the one that reading forgets. -/
theorem lone_colon_iff {text : String} {spec : CompactSpec} (read : parse text = .ok spec) :
    spec.options = [] ∧ text.toList.getLast? = some ':' ↔ text = spec.render ++ ":" := by
  obtain ⟨wellFormed, rfl | ⟨optionless, rfl⟩⟩ := parse_eq_ok_iff_render.mp read
  · constructor
    · rintro ⟨optionless, last⟩
      rw [render_of_optionless optionless] at last
      exact absurd (List.mem_of_getLast? last) wellFormed.name_uncut
    · intro longer
      have lengths := congrArg String.length longer
      simp at lengths
  · simp [optionless]

/-- A second text of a specification is its name with or without a colon, and the first text is
the other of the two. -/
theorem parse_eq_ok_iff_of_ne {text other : String} {spec : CompactSpec}
    (read : parse text = .ok spec) (different : other ≠ text) :
    parse other = .ok spec ↔
      spec.options = [] ∧
        (text = spec.name ∧ other = spec.name ++ ":" ∨
          text = spec.name ++ ":" ∧ other = spec.name) := by
  obtain ⟨wellFormed, spelled⟩ := parse_eq_ok_iff_render.mp read
  rw [parse_eq_ok_iff_render]
  constructor
  · rintro ⟨-, otherSpelled⟩
    rcases spelled with rfl | ⟨optionless, rfl⟩
    · rcases otherSpelled with rfl | ⟨optionless, rfl⟩
      · exact absurd rfl different
      · rw [render_of_optionless optionless]
        exact ⟨optionless, Or.inl ⟨rfl, rfl⟩⟩
    · rcases otherSpelled with rfl | ⟨-, rfl⟩
      · rw [render_of_optionless optionless]
        exact ⟨optionless, Or.inr ⟨rfl, rfl⟩⟩
      · exact absurd rfl different
  · rintro ⟨optionless, ⟨-, rfl⟩ | ⟨-, rfl⟩⟩
    · exact ⟨wellFormed, Or.inr ⟨optionless, by rw [render_of_optionless optionless]⟩⟩
    · exact ⟨wellFormed, Or.inl (render_of_optionless optionless).symm⟩

/-- What was read is rendered as the text it was read from, unless it has no options and the text
ends with a colon; the text then is the rendering with that one colon behind it. Another text is
read as the same exactly when a lone colon behind the name makes the difference. -/
theorem render_of_parse {text : String} {spec : CompactSpec} (read : parse text = .ok spec) :
    (¬(spec.options = [] ∧ text.toList.getLast? = some ':') → spec.render = text) ∧
      (spec.options = [] ∧ text.toList.getLast? = some ':' → text = spec.render ++ ":") ∧
      ∀ other, other ≠ text →
        (parse other = .ok spec ↔
          spec.options = [] ∧
            (text = spec.name ∧ other = spec.name ++ ":" ∨
              text = spec.name ++ ":" ∧ other = spec.name)) := by
  refine ⟨fun whole => ?_, (lone_colon_iff read).mp, fun other => parse_eq_ok_iff_of_ne read⟩
  obtain ⟨-, same | ⟨-, colon⟩⟩ := parse_eq_ok_iff_render.mp read
  · exact same.symm
  · exact absurd ((lone_colon_iff read).mpr colon) whole

/-- Separators inside values, a bare key, an empty value and a last colon that belongs to a value
come back as they were. Of a name alone the colon behind it is lost, and with the colon or without
it the name is read as the same. -/
theorem render_of_parse_separators :
    (⟨"go", [⟨"path", some "=a=b::"⟩, ⟨"bare", none⟩, ⟨"empty", some ""⟩, ⟨"x", some ":"⟩]⟩ :
        CompactSpec).render = "go:path==a=b::,bare,empty=,x=:" ∧
      "go:" = (⟨"go", []⟩ : CompactSpec).render ++ ":" ∧
      parse "go" = .ok ⟨"go", []⟩ := by
  have parted : parse "go:path==a=b::,bare,empty=,x=:" = .ok ⟨"go",
    [⟨"path", some "=a=b::"⟩, ⟨"bare", none⟩, ⟨"empty", some ""⟩, ⟨"x", some ":"⟩]⟩ := rfl
  have alone : parse "go:" = .ok ⟨"go", []⟩ := rfl
  obtain ⟨whole, -, -⟩ := render_of_parse parted
  obtain ⟨-, colon, others⟩ := render_of_parse alone
  exact ⟨whole (by simp), colon ⟨rfl, rfl⟩,
    (others "go" (by decide)).mpr ⟨rfl, Or.inr ⟨rfl, rfl⟩⟩⟩

end CompactSpec

end ThriftCommand
