/-
This file says what a compact specification looks like as text, as a grammar that does not scan,
and proves that reading decides it. A name ends before the first colon, an item before the next
comma, and a key before the first equals sign, so whatever the text is, it writes one specification
and no other.

What reading then looks at is the name and the keys. The content here is what it says when they
are wrong: a name that is missing comes before everything else, and of the options the leftmost
one that breaks a rule decides, whatever stands behind it.
-/

import ThriftCommand.Compact.Spec
import Mathlib.Data.List.Forall2

namespace ThriftCommand

/-! ### The grammar -/

/-- The item writes the option: a key alone, or a key and a value with an equals sign between
them. A value may hold the sign, and a key may not. -/
inductive SpecOption.WrittenAs : SpecOption → String → Prop
  | bare {key : String} (unparted : '=' ∉ key.toList) :
    WrittenAs { key, value := none } key
  | valued {key : String} (unparted : '=' ∉ key.toList) (value : String) :
    WrittenAs { key, value := some value } (key ++ "=" ++ value)

/-- The items are what is between the commas of the text. -/
structure CutAtCommas (text : String) (items : List String) : Prop where
  nonempty : items ≠ []
  uncut : ∀ item ∈ items, ',' ∉ item.toList
  joined : text = ",".intercalate items

/-- The text behind the colon writes the options, one item each and in order. No text writes
none. -/
inductive OptionsWrittenAs : List SpecOption → String → Prop
  | nothing : OptionsWrittenAs [] ""
  | items {options : List SpecOption} {text : String} {items : List String}
      (something : text ≠ "") (cut : CutAtCommas text items)
      (each : List.Forall₂ SpecOption.WrittenAs options items) :
    OptionsWrittenAs options text

/-- The text writes the specification: a name, and behind a colon its options. A name does not
hold the colon. -/
inductive CompactSpec.WrittenAs : CompactSpec → String → Prop
  | alone {name : String} (uncut : ':' ∉ name.toList) :
    WrittenAs { name, options := [] } name
  | withOptions {name : String} (uncut : ':' ∉ name.toList) {options : List SpecOption}
      {text : String} (written : OptionsWrittenAs options text) :
    WrittenAs { name, options } (name ++ ":" ++ text)

/-- Every option has a key, and no two options share one. -/
structure SpecOption.Keyed (options : List SpecOption) : Prop where
  nonempty : ∀ option ∈ options, option.key ≠ ""
  distinct : (options.map SpecOption.key).Nodup

/-- The complaint about the leftmost option without a key or with the key of one before it. -/
inductive SpecOption.Complaint (text : String) : List SpecOption → SpecError → Prop
  | emptyKey {before : List SpecOption} (faultless : Keyed before) {option : SpecOption}
      (empty : option.key = "") (after : List SpecOption) :
    Complaint text (before ++ option :: after) (.emptyKey text)
  | duplicateKey {before : List SpecOption} (faultless : Keyed before) {option : SpecOption}
      (nonempty : option.key ≠ "") (repeated : option.key ∈ before.map SpecOption.key)
      (after : List SpecOption) :
    Complaint text (before ++ option :: after) (.duplicateKey text option.key)

/-! ### Every text writes one specification -/

theorem SpecOption.ofItem_bare {key : String} (unparted : '=' ∉ key.toList) :
    ofItem key.toList = { key, value := none } := by
  rw [ofItem, Text.splitFirst_of_notMem _ unparted]
  simp

theorem SpecOption.ofItem_valued {key : String} (unparted : '=' ∉ key.toList) (value : String) :
    ofItem (key ++ "=" ++ value).toList = { key, value := some value } := by
  rw [ofItem, Text.splitFirst_toList rfl unparted]
  simp

/-- An item writes the option that it is read as, and no other. -/
theorem SpecOption.writtenAs_iff {option : SpecOption} {item : String} :
    option.WrittenAs item ↔ option = ofItem item.toList := by
  have equals : "=".toList = ['='] := rfl
  constructor
  · intro written
    cases written with
    | bare unparted => exact (ofItem_bare unparted).symm
    | valued unparted value => exact (ofItem_valued unparted value).symm
  · rintro rfl
    rcases Text.exists_cut equals item with unparted | ⟨key, value, rfl, unparted⟩
    · rw [ofItem_bare unparted]
      exact .bare unparted
    · rw [ofItem_valued unparted]
      exact .valued unparted value

theorem cutAtCommas_iff {text : String} {items : List String} :
    CutAtCommas text items ↔ items.map String.toList = text.toList.splitOn ',' := by
  constructor
  · rintro ⟨nonempty, uncut, rfl⟩
    have pieces : ∀ piece ∈ items.map String.toList, ',' ∉ piece := by simpa using uncut
    rw [String.toList_intercalate]
    exact (List.splitOn_intercalate ',' pieces (by simpa using nonempty)).symm
  · intro pieces
    refine ⟨fun empty => ?_, fun item member => ?_, ?_⟩
    · rw [empty] at pieces
      exact List.splitOn_ne_nil ',' text.toList pieces.symm
    · have piece : item.toList ∈ text.toList.splitOn ',' := pieces ▸ List.mem_map_of_mem member
      exact Text.separator_notMem_of_mem_splitOn ',' piece
    · rw [← String.toList_inj, String.toList_intercalate, pieces]
      exact (List.intercalate_splitOn ',').symm

theorem optionsOf_of_ne_nil {text : List Char} (something : text ≠ []) :
    CompactSpec.optionsOf text = (text.splitOn ',').map SpecOption.ofItem := by
  cases text with
  | nil => exact absurd rfl something
  | cons first rest => rfl

/-- Each item between the commas is read as one option. -/
theorem CutAtCommas.optionsOf_eq {text : String} {items : List String}
    (cut : CutAtCommas text items) (something : text ≠ "") :
    CompactSpec.optionsOf text.toList =
      items.map fun item => SpecOption.ofItem item.toList := by
  have chars : text.toList ≠ [] := mt String.toList_eq_nil_iff.mp something
  rw [optionsOf_of_ne_nil chars, ← cutAtCommas_iff.mp cut, List.map_map]
  rfl

/-- The text behind the colon writes the options that it is read as, and no others. -/
theorem optionsWrittenAs_iff {options : List SpecOption} {text : String} :
    OptionsWrittenAs options text ↔ options = CompactSpec.optionsOf text.toList := by
  constructor
  · intro written
    cases written with
    | nothing => rfl
    | @items options text items something cut each =>
      have read : List.Forall₂ (fun option item => option = SpecOption.ofItem item.toList)
          options items := each.imp fun _ _ => SpecOption.writtenAs_iff.mp
      rw [cut.optionsOf_eq something, ← List.forall₂_eq_eq_eq, List.forall₂_map_right_iff]
      exact read
  · rintro rfl
    by_cases something : text = ""
    · subst something
      exact .nothing
    · have chars : text.toList ≠ [] := fun empty => something (String.toList_eq_nil_iff.mp empty)
      have cut : CutAtCommas text ((text.toList.splitOn ',').map String.ofList) :=
        cutAtCommas_iff.mpr (by simp)
      refine .items something cut ?_
      rw [optionsOf_of_ne_nil chars, List.forall₂_map_left_iff, List.forall₂_map_right_iff,
        List.forall₂_same]
      intro piece _
      exact SpecOption.writtenAs_iff.mpr (by rw [String.toList_ofList])

namespace CompactSpec

/-- The specification that a text writes, whatever its name and its keys are. -/
def ofText (text : String) : CompactSpec :=
  let (name, rest) := Text.splitFirst ':' text.toList
  { name := String.ofList name, options := optionsOf (rest.getD []) }

theorem ofText_alone {name : String} (uncut : ':' ∉ name.toList) :
    ofText name = { name, options := [] } := by
  rw [ofText, Text.splitFirst_of_notMem _ uncut]
  simp [optionsOf]

theorem ofText_withOptions {name : String} (uncut : ':' ∉ name.toList) (text : String) :
    ofText (name ++ ":" ++ text) = { name, options := optionsOf text.toList } := by
  rw [ofText, Text.splitFirst_toList rfl uncut]
  simp

/-- A text writes one specification and no other. -/
theorem writtenAs_iff {spec : CompactSpec} {text : String} :
    spec.WrittenAs text ↔ spec = ofText text := by
  have colon : ":".toList = [':'] := rfl
  constructor
  · intro written
    cases written with
    | alone uncut => exact (ofText_alone uncut).symm
    | withOptions uncut written =>
      rw [ofText_withOptions uncut, optionsWrittenAs_iff.mp written]
  · rintro rfl
    rcases Text.exists_cut colon text with uncut | ⟨name, rest, rfl, uncut⟩
    · rw [ofText_alone uncut]
      exact .alone uncut
    · rw [ofText_withOptions uncut]
      exact .withOptions uncut (optionsWrittenAs_iff.mpr rfl)

/-! ### Faults of keys -/

/-- Keys are without fault exactly when none is empty and each one is new. Every key that is passed
is seen from there on, so this holds for all that can have been seen. -/
theorem keyFault?_eq_none_iff {seen keys : List String} :
    keyFault? seen keys = none ↔
      (∀ key ∈ keys, key ≠ "") ∧ keys.Nodup ∧ ∀ key ∈ keys, key ∉ seen := by
  induction keys generalizing seen with
  | nil => simp [keyFault?]
  | cons key rest inductionHypothesis =>
    by_cases empty : key = ""
    · simp [keyFault?, empty]
    · by_cases old : key ∈ seen
      · simp [keyFault?, empty, old]
      · rw [keyFault?, if_neg empty, if_neg old, inductionHypothesis, List.nodup_cons]
        simp only [List.mem_cons, forall_eq_or_imp, not_or]
        constructor
        · rintro ⟨nonempty, distinct, new⟩
          exact ⟨⟨empty, nonempty⟩, ⟨fun member => (new key member).1 rfl, distinct⟩, old,
            fun other member => (new other member).2⟩
        · rintro ⟨⟨-, nonempty⟩, ⟨fresh, distinct⟩, -, new⟩
          exact ⟨nonempty, distinct, fun other member =>
            ⟨fun same => fresh (same ▸ member), new other member⟩⟩

/-- Keys behind keys without fault are looked at with those before them as seen. -/
theorem keyFault?_append {seen before : List String} (faultless : keyFault? seen before = none)
    (keys : List String) :
    keyFault? seen (before ++ keys) = keyFault? (before.reverse ++ seen) keys := by
  induction before generalizing seen with
  | nil => rfl
  | cons key rest inductionHypothesis =>
    unfold keyFault? at faultless
    split at faultless
    · cases faultless
    · rename_i nonempty
      split at faultless
      · cases faultless
      · rename_i new
        rw [List.cons_append, keyFault?, if_neg nonempty, if_neg new,
          inductionHypothesis faultless]
        simp

/-- A fault is that of the first key which has one. -/
theorem exists_key_of_keyFault? {seen keys : List String} {fault : KeyFault}
    (found : keyFault? seen keys = some fault) :
    ∃ before key after, keys = before ++ key :: after ∧ keyFault? seen before = none ∧
      (key = "" ∧ fault = .empty ∨
        key ≠ "" ∧ (key ∈ before ∨ key ∈ seen) ∧ fault = .repeated key) := by
  induction keys generalizing seen with
  | nil => cases found
  | cons key rest inductionHypothesis =>
    unfold keyFault? at found
    split at found
    · rename_i empty
      cases found
      exact ⟨[], key, rest, rfl, rfl, Or.inl ⟨empty, rfl⟩⟩
    · rename_i nonempty
      split at found
      · rename_i old
        cases found
        exact ⟨[], key, rest, rfl, rfl, Or.inr ⟨nonempty, Or.inr old, rfl⟩⟩
      · rename_i new
        obtain ⟨before, other, after, rfl, faultless, faulty⟩ := inductionHypothesis found
        refine ⟨key :: before, other, after, rfl, ?_, ?_⟩
        · rw [keyFault?, if_neg nonempty, if_neg new, faultless]
        · simpa [or_assoc, or_comm, or_left_comm] using faulty

/-- Options have keys of their own exactly when no key is at fault. -/
theorem keyed_iff {options : List SpecOption} :
    SpecOption.Keyed options ↔ keyFault? [] (options.map SpecOption.key) = none := by
  rw [keyFault?_eq_none_iff]
  constructor
  · rintro ⟨nonempty, distinct⟩
    exact ⟨by simpa using nonempty, distinct, by simp⟩
  · rintro ⟨nonempty, distinct, -⟩
    exact ⟨by simpa using nonempty, distinct⟩

/-- The error that complains of a fault. -/
def KeyFault.error (text : String) : KeyFault → SpecError
  | .empty => .emptyKey text
  | .repeated key => .duplicateKey text key

/-- What is complained of is the first fault. -/
theorem complaint_iff {text : String} {options : List SpecOption} {error : SpecError} :
    SpecOption.Complaint text options error ↔
      ∃ fault, keyFault? [] (options.map SpecOption.key) = some fault ∧
        error = fault.error text := by
  constructor
  · intro complaint
    cases complaint with
    | @emptyKey before faultless option empty after =>
      refine ⟨.empty, ?_, rfl⟩
      rw [List.map_append, keyFault?_append (keyed_iff.mp faultless), List.map_cons, keyFault?,
        if_pos empty]
    | @duplicateKey before faultless option nonempty repeated after =>
      refine ⟨.repeated option.key, ?_, rfl⟩
      have old : option.key ∈ (before.map SpecOption.key).reverse ++ [] := by simpa using repeated
      rw [List.map_append, keyFault?_append (keyed_iff.mp faultless), List.map_cons, keyFault?,
        if_neg nonempty, if_pos old]
  · rintro ⟨fault, found, rfl⟩
    obtain ⟨keys, key, others, split, faultless, faulty⟩ := exists_key_of_keyFault? found
    obtain ⟨before, behind, rfl, rfl, behindKeys⟩ := List.map_eq_append_iff.mp split
    obtain ⟨option, after, rfl, rfl, -⟩ := List.map_eq_cons_iff.mp behindKeys
    rcases faulty with ⟨empty, rfl⟩ | ⟨nonempty, repeated, rfl⟩
    · exact .emptyKey (keyed_iff.mpr faultless) empty after
    · exact .duplicateKey (keyed_iff.mpr faultless) nonempty (by simpa using repeated) after

/-! ### What reading says -/

/-- Reading looks at the name of what the text writes, and then at the keys. -/
theorem parse_eq (text : String) :
    parse text =
      if (ofText text).name = "" then .error (.missingName text)
      else
        match keyFault? [] ((ofText text).options.map SpecOption.key) with
        | some fault => .error (fault.error text)
        | none => .ok (ofText text) := by
  unfold parse ofText
  cases Text.splitFirst ':' text.toList with
  | mk name rest =>
    by_cases nameless : name = []
    · simp [nameless]
    · have named : String.ofList name ≠ "" := by simpa using nameless
      simp only [nameless, named, if_false]
      cases keyFault? [] ((optionsOf (rest.getD [])).map SpecOption.key) with
      | none => rfl
      | some fault => cases fault <;> rfl

/-- A text is read as what it writes, if that has a name and its options have keys. -/
theorem parse_eq_ok_iff {text : String} {read : CompactSpec} :
    parse text = .ok read ↔
      read.WrittenAs text ∧ read.name ≠ "" ∧ SpecOption.Keyed read.options := by
  rw [parse_eq, writtenAs_iff, keyed_iff]
  by_cases nameless : (ofText text).name = ""
  · rw [if_pos nameless]
    constructor
    · intro refused
      cases refused
    · rintro ⟨rfl, named, -⟩
      exact absurd nameless named
  · rw [if_neg nameless]
    constructor
    · intro accepted
      split at accepted
      · cases accepted
      · rename_i faultless
        cases accepted
        exact ⟨rfl, nameless, faultless⟩
    · rintro ⟨rfl, -, faultless⟩
      rw [faultless]

/-- A missing name is complained of first, and then the first fault among the keys. -/
theorem parse_eq_error_iff {text : String} {error : SpecError} :
    parse text = .error error ↔
      (ofText text).name = "" ∧ error = .missingName text ∨
        (ofText text).name ≠ "" ∧ SpecOption.Complaint text (ofText text).options error := by
  rw [parse_eq, complaint_iff]
  by_cases nameless : (ofText text).name = ""
  · simp [nameless, eq_comm]
  · cases keyFault? [] ((ofText text).options.map SpecOption.key) with
    | none => simp [nameless]
    | some fault => simp [nameless, eq_comm]

/-- Every text writes one specification. It is read as that exactly when it has a name and its
options have keys of their own. Otherwise the error is that of the name if there is none, and else
that of the leftmost option without a key or with the key of one before it. -/
theorem parse_decides (text : String) :
    ∃ spec : CompactSpec,
      (∀ other : CompactSpec, other.WrittenAs text ↔ other = spec) ∧
      (∀ read, parse text = .ok read ↔
        read = spec ∧ spec.name ≠ "" ∧ SpecOption.Keyed spec.options) ∧
      ∀ error, parse text = .error error ↔
        spec.name = "" ∧ error = .missingName text ∨
          spec.name ≠ "" ∧ SpecOption.Complaint text spec.options error := by
  refine ⟨ofText text, fun other => writtenAs_iff, fun read => ?_, fun error => parse_eq_error_iff⟩
  rw [parse_eq_ok_iff, writtenAs_iff]
  constructor
  · rintro ⟨rfl, named, keyed⟩
    exact ⟨rfl, named, keyed⟩
  · rintro ⟨rfl, named, keyed⟩
    exact ⟨rfl, named, keyed⟩

/-- Two options break a rule here, and the repeated key stands before the missing one. -/
example : parse "go:a=1,a,=2" = .error (.duplicateKey "go:a=1,a,=2" "a") := rfl

end CompactSpec

end ThriftCommand
