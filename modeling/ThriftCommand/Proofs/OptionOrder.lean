/-
This file proves that the order in which options are written does not change what they mean. That is
not how reading and looking up are defined: reading looks for a repeated key only among the options
before it, and a look-up takes the first option with its key.

The content here is that the order is all the same once no two options share a key, and that such
options are read in every order. The look-ups in two texts of the same items then agree, and the
options and the warnings about them differ in nothing but their places.
-/

import Mathlib.Data.List.FinRange
import ThriftCommand.Proofs.TargetWarnings

namespace ThriftCommand

/-! ### Lists in another order -/

/-- The items of a list in another order: each position has the item of the position that the order
sends it to. -/
def arranged {Item : Type} (items : List Item) (order : Equiv.Perm (Fin items.length)) :
    List Item :=
  List.ofFn fun position => items.get (order position)

section

variable {Item : Type} {items : List Item} (order : Equiv.Perm (Fin items.length))

theorem arranged_perm : (arranged items order).Perm items := by
  have moved := Equiv.Perm.ofFn_comp_perm order items.get
  rwa [List.ofFn_get] at moved

theorem getElem?_arranged (position : Fin items.length) :
    (arranged items order)[(position : Nat)]? = items[(order position : Nat)]? := by
  simp [arranged]

/-- A list of one item has one order. -/
theorem arranged_eq_singleton_iff {item : Item} :
    arranged items order = [item] ↔ items = [item] := by
  rw [← List.perm_singleton, ← List.perm_singleton]
  exact ⟨(arranged_perm order).symm.trans, (arranged_perm order).trans⟩

end

/-! ### Options in another order -/

namespace SpecOption

variable {options others : List SpecOption}

theorem Keyed.of_perm (keyed : Keyed options) (perm : others.Perm options) : Keyed others where
  nonempty option member := keyed.nonempty option (perm.mem_iff.mp member)
  distinct := (perm.map SpecOption.key).nodup_iff.mpr keyed.distinct

theorem given_of_notMem {key : String} (absent : key ∉ options.map SpecOption.key) :
    given options key = .absent := by
  have missing : options.find? (fun option => option.key = key) = none := by
    simpa using absent
  rw [given, missing]

/-- Where no two options share a key, the order does not matter to a look-up. -/
theorem given_of_perm (keyed : Keyed options) (perm : others.Perm options) (key : String) :
    given others key = given options key := by
  by_cases among : key ∈ options.map SpecOption.key
  · obtain ⟨option, member, rfl⟩ := List.mem_map.mp among
    rw [given_of_mem keyed member, given_of_mem (keyed.of_perm perm) (perm.mem_iff.mpr member)]
  · have amongOthers : key ∉ others.map SpecOption.key :=
      fun member => among ((perm.map SpecOption.key).mem_iff.mp member)
    rw [given_of_notMem among, given_of_notMem amongOthers]

theorem isOn_of_perm (keyed : Keyed options) (perm : others.Perm options) (key : String) :
    isOn others key = isOn options key := by
  rw [isOn, isOn, given_of_perm keyed perm]

end SpecOption

/-- A target with its options in another order causes the same warnings, in another order. It is
only looked at to read a key as a boolean, which no order changes. -/
theorem Warning.ofTarget_perm {options others : List SpecOption}
    (keyed : SpecOption.Keyed options) (perm : others.Perm options) (language : String)
    (backends : List Backend) :
    (ofTarget backends ⟨language, others⟩).Perm (ofTarget backends ⟨language, options⟩) := by
  unfold ofTarget
  cases Backend.find? backends language with
  | none => exact List.Perm.refl _
  | some backend =>
    have same : ofOption? backend ⟨language, others⟩ = ofOption? backend ⟨language, options⟩ := by
      funext option
      unfold ofOption? Target.isOn
      rw [SpecOption.isOn_of_perm keyed perm]
    dsimp only
    rw [same]
    exact perm.filterMap _

namespace CompactSpec

/-! ### Texts in another order -/

/-- The text of a name and of its options, with one item for each option. -/
def joined (name : String) (items : List String) : String :=
  name ++ ":" ++ ",".intercalate items

/-- The second specification is the first with its options moved as the order moves positions, and
it means the same. -/
structure Rearranged {count : Nat} (order : Equiv.Perm (Fin count)) (first second : CompactSpec) :
    Prop where
  name : second.name = first.name
  /-- Every option stands at a position that the order moves. -/
  within : first.options.length ≤ count
  moved (position : Fin count) :
    second.options[(position : Nat)]? = first.options[(order position : Nat)]?
  options : second.options.Perm first.options
  given (key : String) : second.given key = first.given key
  isOn (key : String) : second.isOn key = first.isOn key
  warnings (backends : List Backend) :
    ((Warning.ofTargets backends [Target.ofSpec second]).map Warning.message).Perm
      ((Warning.ofTargets backends [Target.ofSpec first]).map Warning.message)

/-- The options that items between commas write. One empty item writes none. -/
def itemOptions (items : List String) : List SpecOption :=
  if items = [""] then [] else items.map fun item => SpecOption.ofItem item.toList

section

variable {items : List String} (order : Equiv.Perm (Fin items.length))

theorem length_itemOptions_le : (itemOptions items).length ≤ items.length := by
  unfold itemOptions
  split
  · exact Nat.zero_le _
  · exact (List.length_map _).le

theorem itemOptions_arranged_perm :
    (itemOptions (arranged items order)).Perm (itemOptions items) := by
  unfold itemOptions
  simp only [arranged_eq_singleton_iff]
  split
  · exact List.Perm.refl _
  · exact (arranged_perm order).map _

/-- The options move with their items. -/
theorem getElem?_itemOptions_arranged (position : Fin items.length) :
    (itemOptions (arranged items order))[(position : Nat)]? =
      (itemOptions items)[(order position : Nat)]? := by
  unfold itemOptions
  simp only [arranged_eq_singleton_iff]
  split
  · rfl
  · rw [List.getElem?_map, List.getElem?_map, getElem?_arranged]

end

/-- Items without commas are what is between the commas of their text. -/
theorem optionsOf_intercalate {items : List String}
    (commaFree : ∀ item ∈ items, ',' ∉ item.toList) :
    optionsOf (",".intercalate items).toList = itemOptions items := by
  unfold itemOptions
  split
  · rename_i blank
    rw [blank]
    rfl
  · rename_i someItem
    cases items with
    | nil => rfl
    | cons first rest =>
      have cut : CutAtCommas (",".intercalate (first :: rest)) (first :: rest) :=
        ⟨List.cons_ne_nil first rest, commaFree, rfl⟩
      refine cut.optionsOf_eq fun nothing => someItem ?_
      have pieces := cutAtCommas_iff.mp cut
      rw [nothing] at pieces
      simpa using pieces

/-- A name with items behind its colon is read if there is a name and the items have keys of their
own. -/
theorem parse_joined_iff {name : String} (uncut : ':' ∉ name.toList) {items : List String}
    (commaFree : ∀ item ∈ items, ',' ∉ item.toList) {spec : CompactSpec} :
    parse (joined name items) = .ok spec ↔
      spec = ⟨name, itemOptions items⟩ ∧ name ≠ "" ∧ SpecOption.Keyed (itemOptions items) := by
  rw [parse_eq_ok_iff, writtenAs_iff, joined, ofText_withOptions uncut,
    optionsOf_intercalate commaFree]
  refine and_congr_right ?_
  rintro rfl
  exact Iff.rfl

/-- Specifications of one name whose options are the same but for the order mean the same. -/
theorem rearranged_of_perm {count : Nat} {order : Equiv.Perm (Fin count)} {name : String}
    {options others : List SpecOption} (keyed : SpecOption.Keyed options)
    (within : options.length ≤ count) (perm : others.Perm options)
    (moved : ∀ position : Fin count,
      others[(position : Nat)]? = options[(order position : Nat)]?) :
    Rearranged order ⟨name, options⟩ ⟨name, others⟩ where
  name := rfl
  within := within
  moved := moved
  options := perm
  given := SpecOption.given_of_perm keyed perm
  isOn := SpecOption.isOn_of_perm keyed perm
  warnings backends := by
    have sameTarget := Warning.ofTarget_perm keyed perm name backends
    simpa [Warning.ofTargets, Target.ofSpec] using sameTarget.map Warning.message

/-- A name with items behind its colon is read in every order of the items or in none. What is read
in two orders has the options in these orders, with the same look-ups and the same warnings. -/
theorem parse_arranged {name : String} (uncut : ':' ∉ name.toList) {items : List String}
    (commaFree : ∀ item ∈ items, ',' ∉ item.toList) (order : Equiv.Perm (Fin items.length)) :
    ((∃ spec, parse (joined name items) = .ok spec) ↔
        ∃ spec, parse (joined name (arranged items order)) = .ok spec) ∧
      ∀ first second, parse (joined name items) = .ok first →
        parse (joined name (arranged items order)) = .ok second →
        Rearranged order first second := by
  have arrangedFree : ∀ item ∈ arranged items order, ',' ∉ item.toList :=
    fun item member => commaFree item ((arranged_perm order).mem_iff.mp member)
  have perm := itemOptions_arranged_perm order
  refine ⟨?_, fun first second firstRead secondRead => ?_⟩
  · simp only [parse_joined_iff uncut commaFree, parse_joined_iff uncut arrangedFree,
      exists_eq_left]
    constructor
    · rintro ⟨named, keyed⟩
      exact ⟨named, keyed.of_perm perm⟩
    · rintro ⟨named, keyed⟩
      exact ⟨named, keyed.of_perm perm.symm⟩
  · obtain ⟨rfl, -, keyed⟩ := (parse_joined_iff uncut commaFree).mp firstRead
    obtain ⟨rfl, -, -⟩ := (parse_joined_iff uncut arrangedFree).mp secondRead
    exact rearranged_of_perm keyed length_itemOptions_le perm (getElem?_itemOptions_arranged order)

/-- A value that is neither on nor off is complained of in both orders. -/
theorem parse_arranged_reversed :
    parse (joined "go" ["safe=maybe", "fast", "x="]) =
        .ok ⟨"go", [⟨"safe", some "maybe"⟩, ⟨"fast", none⟩, ⟨"x", some ""⟩]⟩ ∧
      parse (joined "go" ["x=", "fast", "safe=maybe"]) =
        .ok ⟨"go", [⟨"x", some ""⟩, ⟨"fast", none⟩, ⟨"safe", some "maybe"⟩]⟩ ∧
      isOn ⟨"go", [⟨"x", some ""⟩, ⟨"fast", none⟩, ⟨"safe", some "maybe"⟩]⟩ "safe" =
        isOn ⟨"go", [⟨"safe", some "maybe"⟩, ⟨"fast", none⟩, ⟨"x", some ""⟩]⟩ "safe" := by
  have first : parse (joined "go" ["safe=maybe", "fast", "x="]) =
    .ok ⟨"go", [⟨"safe", some "maybe"⟩, ⟨"fast", none⟩, ⟨"x", some ""⟩]⟩ := rfl
  have second : parse (joined "go" ["x=", "fast", "safe=maybe"]) =
    .ok ⟨"go", [⟨"x", some ""⟩, ⟨"fast", none⟩, ⟨"safe", some "maybe"⟩]⟩ := rfl
  have uncut : ':' ∉ "go".toList := by decide
  have commaFree : ∀ item ∈ ["safe=maybe", "fast", "x="], ',' ∉ item.toList := by decide
  have reversed : arranged ["safe=maybe", "fast", "x="] Fin.revPerm =
    ["x=", "fast", "safe=maybe"] := rfl
  obtain ⟨-, means⟩ := parse_arranged uncut commaFree Fin.revPerm
  exact ⟨first, second, (means _ _ first (reversed ▸ second)).isOn "safe"⟩

end CompactSpec

end ThriftCommand
