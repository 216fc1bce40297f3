/-
This file says which separators can stand inside the keys and the values of a specification that
was read. A text is cut at its first colon, the rest at every comma, and an item at its first equals
sign. So a key holds neither comma nor equals sign, and a value no comma. Nothing else is asked of a
value, and of a key only that it is not empty.

The colon is not among the separators that a key does without, since nothing is cut at a colon
behind the first. The content here is where one gets into a key: in an item that has a colon, and no
equals sign before it.
-/

import ThriftCommand.Proofs.Rendering

namespace ThriftCommand

/-! ### Colons behind the first -/

/-- Behind the colon that ends the name, an item holds a colon, and no equals sign before it. -/
inductive CompactSpec.StrayColon : String → Prop
  | intro {name : String} (uncut : ':' ∉ name.toList) {rest : String} {items : List String}
      (cut : CutAtCommas rest items) {front : String} (unparted : '=' ∉ front.toList)
      {back : String} (member : front ++ ":" ++ back ∈ items) :
    StrayColon (name ++ ":" ++ rest)

/-- A text with an item that is not empty is not empty. -/
theorem CutAtCommas.ne_empty {text : String} {items : List String} (cut : CutAtCommas text items)
    {item : String} (member : item ∈ items) (something : item ≠ "") : text ≠ "" := by
  rintro rfl
  have piece : item.toList ∈ "".toList.splitOn ',' :=
    cutAtCommas_iff.mp cut ▸ List.mem_map_of_mem member
  have nothing : item.toList = [] := by simpa using piece
  exact something (String.toList_eq_nil_iff.mp nothing)

/-- An option is rendered with its key in front. -/
theorem SpecOption.exists_render_eq (option : SpecOption) :
    ∃ rest, option.render = option.key ++ rest := by
  obtain ⟨key, value⟩ := option
  cases value with
  | none => exact ⟨"", by simp [render]⟩
  | some value => exact ⟨"=" ++ value, String.append_assoc⟩

/-- An item is read with a colon in its key exactly when it has one before any equals sign: the key
stands in front of the item. -/
theorem SpecOption.colon_mem_key_iff {item : String} :
    ':' ∈ (ofItem item.toList).key.toList ↔
      ∃ front back : String, item = front ++ ":" ++ back ∧ '=' ∉ front.toList := by
  have colon : ":".toList = [':'] := rfl
  constructor
  · intro holds
    have written : (ofItem item.toList).WrittenAs item := writtenAs_iff.mpr rfl
    obtain ⟨whole, unparted⟩ := writtenAs_iff_render.mp written
    rcases Text.exists_cut colon (ofItem item.toList).key with absent | ⟨front, back, key, -⟩
    · exact absurd holds absent
    · obtain ⟨rest, rendered⟩ := (ofItem item.toList).exists_render_eq
      refine ⟨front, back ++ rest, ?_, fun equals => unparted ?_⟩
      · rw [whole, rendered, key, String.append_assoc]
      · rw [key, String.append_assoc, String.toList_append]
        exact List.mem_append_left _ equals
  · rintro ⟨front, back, rfl, unparted⟩
    have key : (ofItem (front ++ ":" ++ back).toList).key.toList =
        front.toList ++ (Text.splitFirst '=' (":" ++ back).toList).1 := by
      rw [ofItem, String.append_assoc, String.toList_append,
        ← Text.fst_splitFirst_append _ unparted, String.toList_ofList]
    rw [key]
    simp [Text.splitFirst]

namespace CompactSpec

/-- What a text writes has a colon in a key exactly when the text has a stray one. -/
theorem WrittenAs.exists_colon_iff {spec : CompactSpec} {text : String}
    (written : spec.WrittenAs text) :
    (∃ option ∈ spec.options, ':' ∈ option.key.toList) ↔ StrayColon text := by
  constructor
  · rintro ⟨option, member, holds⟩
    cases written with
    | alone uncut => cases member
    | withOptions uncut optionsWritten =>
      have read := optionsWrittenAs_iff.mp optionsWritten
      cases optionsWritten with
      | nothing => cases member
      | items something cut each =>
        rw [read, cut.optionsOf_eq something] at member
        obtain ⟨item, itemMember, rfl⟩ := List.mem_map.mp member
        obtain ⟨front, back, rfl, unparted⟩ := SpecOption.colon_mem_key_iff.mp holds
        exact .intro uncut cut unparted itemMember
  · rintro ⟨uncut, cut, unparted, member⟩
    have something := cut.ne_empty member (by simp)
    rw [writtenAs_iff.mp written, ofText_withOptions uncut, cut.optionsOf_eq something]
    exact ⟨_, List.mem_map_of_mem member,
      SpecOption.colon_mem_key_iff.mpr ⟨_, _, rfl, unparted⟩⟩

/-! ### What keys and values hold -/

/-- An option without the separators that would end its parts early can be read from some text. -/
theorem exists_parse_of_uncut {option : SpecOption} (keyed : option.key ≠ "")
    (key_uncut : ',' ∉ option.key.toList ∧ '=' ∉ option.key.toList)
    (value_uncut : ∀ value, option.value = some value → ',' ∉ value.toList) :
    ∃ text spec, parse text = .ok spec ∧ option ∈ spec.options := by
  have wellFormed : WellFormed ⟨"name", [option]⟩ :=
    { named := by simp
      name_uncut := by simp
      keyed := ⟨by simpa using keyed, by simp⟩
      keys_uncut := by simpa using key_uncut
      values_uncut := by simpa using value_uncut }
  exact ⟨_, _, wellFormed.parse_render, List.mem_singleton_self option⟩

/-- The keys of the specifications that can be read are the texts with something in them, but no
comma and no equals sign. -/
theorem exists_key_iff {key : String} :
    (∃ text spec, parse text = .ok spec ∧ ∃ option ∈ spec.options, option.key = key) ↔
      key ≠ "" ∧ ',' ∉ key.toList ∧ '=' ∉ key.toList := by
  constructor
  · rintro ⟨text, spec, read, option, member, rfl⟩
    have wellFormed := wellFormed_of_parse read
    exact ⟨wellFormed.keyed.nonempty option member, wellFormed.keys_uncut option member⟩
  · rintro ⟨nonempty, uncut⟩
    have bare : ∀ value, (⟨key, none⟩ : SpecOption).value = some value → ',' ∉ value.toList := by
      simp
    obtain ⟨text, spec, read, member⟩ := exists_parse_of_uncut nonempty uncut bare
    exact ⟨text, spec, read, _, member, rfl⟩

/-- The values of the specifications that can be read are the texts without a comma. -/
theorem exists_value_iff {value : String} :
    (∃ text spec, parse text = .ok spec ∧ ∃ option ∈ spec.options, option.value = some value) ↔
      ',' ∉ value.toList := by
  constructor
  · rintro ⟨text, spec, read, option, member, valued⟩
    exact (wellFormed_of_parse read).values_uncut option member value valued
  · intro uncut
    have valued : ∀ other, (⟨"key", some value⟩ : SpecOption).value = some other →
        ',' ∉ other.toList := by simpa using uncut
    obtain ⟨text, spec, read, member⟩ := exists_parse_of_uncut (by simp) (by simp) valued
    exact ⟨text, spec, read, _, member, rfl⟩

/-- The keys of a specification that was read hold no comma and no equals sign. They do without all
three separators exactly when the text has no stray colon. -/
theorem separators_in_keys {text : String} {spec : CompactSpec} (read : parse text = .ok spec) :
    (∀ option ∈ spec.options, ',' ∉ option.key.toList ∧ '=' ∉ option.key.toList) ∧
      ((∀ option ∈ spec.options,
          ',' ∉ option.key.toList ∧ ':' ∉ option.key.toList ∧ '=' ∉ option.key.toList) ↔
        ¬StrayColon text) := by
  obtain ⟨written, -, -⟩ := parse_eq_ok_iff.mp read
  have uncut := (wellFormed_of_parse read).keys_uncut
  refine ⟨uncut, ?_⟩
  rw [← written.exists_colon_iff]
  constructor
  · rintro separated ⟨option, member, holds⟩
    exact (separated option member).2.1 holds
  · intro colonless option member
    obtain ⟨comma, equals⟩ := uncut option member
    exact ⟨comma, fun holds => colonless ⟨option, member, holds⟩, equals⟩

/-- A colon behind the equals sign of its item is part of the value, and a key with a colon is a key
of its own. -/
theorem separators_in_keys_of_two :
    parse "go:path=a=b:c" = .ok ⟨"go", [⟨"path", some "a=b:c"⟩]⟩ ∧ ¬StrayColon "go:path=a=b:c" ∧
      parse "go:a,a:b" = .ok ⟨"go", [⟨"a", none⟩, ⟨"a:b", none⟩]⟩ ∧ StrayColon "go:a,a:b" := by
  have plain : parse "go:path=a=b:c" = .ok ⟨"go", [⟨"path", some "a=b:c"⟩]⟩ := rfl
  have stray : parse "go:a,a:b" = .ok ⟨"go", [⟨"a", none⟩, ⟨"a:b", none⟩]⟩ := rfl
  obtain ⟨-, plainKeys⟩ := separators_in_keys plain
  obtain ⟨-, strayKeys⟩ := separators_in_keys stray
  exact ⟨plain, plainKeys.mp (by simp), stray, not_not.mp (mt strayKeys.mpr (by simp))⟩

/-- Not every key that is read does without all three separators: a second colon is kept. -/
theorem exists_key_with_colon :
    ¬∀ text spec, parse text = .ok spec → ∀ option ∈ spec.options,
      ',' ∉ option.key.toList ∧ ':' ∉ option.key.toList ∧ '=' ∉ option.key.toList := by
  intro separated
  have read : parse "go:a:b" = .ok ⟨"go", [⟨"a:b", none⟩]⟩ := rfl
  obtain ⟨-, absent, -⟩ := separated _ _ read ⟨"a:b", none⟩ (List.mem_singleton_self _)
  exact absent (by decide)

end CompactSpec

end ThriftCommand
