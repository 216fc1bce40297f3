/-
This file proves how the help text is laid out. The width of a block is two places more than its
longest name has, so behind every name and its colon there is a gap, and every description of the
block begins in one column. Who knows the width reads a row back, whatever characters its name and
its description have: the description is all that stands in its column and behind it, and the name
is what stands before the last colon in front of the column, since only the gap is behind that one.

A block depends on its own backend alone. The other backends stand before it and behind it, so with
one backend more or less the rest of the text stays as it is.
-/

import Mathlib.Data.List.Forall2
import ThriftCommand.Help
import ThriftCommand.Proofs.Messages

namespace ThriftCommand.Help

/-! ### The width of a block -/

theorem columnWidth_eq (options : List OptionDoc) :
    columnWidth options = 2 + (options.map fun doc => doc.name.length).max?.getD 0 := by
  rw [columnWidth, List.foldl_max, Nat.zero_max, Nat.add_comm]

/-- Every name of a block leaves two places of the width at least. -/
theorem length_name_le_columnWidth {options : List OptionDoc} {doc : OptionDoc}
    (member : doc ∈ options) : doc.name.length + 2 ≤ columnWidth options := by
  have counted : doc.name.length ∈ options.map fun doc => doc.name.length :=
    List.mem_map_of_mem member
  cases most : (options.map fun doc => doc.name.length).max? with
  | none =>
    rw [List.max?_eq_none_iff.mp most] at counted
    exact absurd counted List.not_mem_nil
  | some longest =>
    have within : doc.name.length ≤ longest := (List.max?_eq_some_iff.mp most).2 _ counted
    rw [columnWidth_eq, most, Option.getD_some]
    omega

/-! ### Rows -/

/-- This many spaces. -/
def spaces (count : Nat) : String :=
  String.ofList (List.replicate count ' ')

theorem length_spaces (count : Nat) : (spaces count).length = count := by
  rw [spaces, String.length_ofList, List.length_replicate]

/-- What a row shows before its description: four spaces, the name, a colon and a gap. -/
def label (name : String) (gap : Nat) : String :=
  "    " ++ (name ++ ":" ++ spaces gap)

/-- The description in a row of a block of this width. -/
def descriptionIn (width : Nat) (row : String) : String :=
  String.ofList (row.toList.drop (4 + width))

/-- The name in a row of a block of this width. -/
def nameIn (width : Nat) (row : String) : String :=
  String.ofList (Text.trimEnd ((row.toList.take (4 + width)).drop 4)).dropLast

/-- The row shows the option in a block of this width. -/
structure LaidOut (width : Nat) (doc : OptionDoc) (row : String) : Prop where
  /-- The description follows the name, its colon and a gap, and begins in the column. -/
  columns : ∃ gap, 0 < gap ∧ row = label doc.name gap ++ doc.description ∧
    (label doc.name gap).length = 4 + width
  /-- The name is read back from the row. -/
  name : nameIn width row = doc.name
  /-- The description is read back from the row. -/
  description : descriptionIn width row = doc.description

theorem row_eq (width : Nat) (doc : OptionDoc) :
    row width doc = label doc.name (width - (doc.name.length + 1)) ++ doc.description := by
  have named : (doc.name ++ ":").length = doc.name.length + 1 := String.length_append _ _
  rw [row, padEnd, named]
  rfl

theorem length_label (name : String) (gap : Nat) :
    (label name gap).length = 4 + (name.length + 1 + gap) := by
  rw [label, String.length_append, String.length_append, String.length_append, length_spaces]
  rfl

theorem descriptionIn_append {width : Nat} {front : String} (column : front.length = 4 + width)
    (description : String) : descriptionIn width (front ++ description) = description := by
  rw [descriptionIn, String.toList_append, List.drop_left' column, String.ofList_toList]

theorem nameIn_append {width : Nat} {name : String} {gap : Nat}
    (column : (label name gap).length = 4 + width) (description : String) :
    nameIn width (label name gap ++ description) = name := by
  have colon : Text.trimEnd (name ++ ":").toList = (name ++ ":").toList :=
    Text.trimEnd_append name (by decide +kernel) (by decide)
  have places : (label name gap).toList.drop 4 =
      (name ++ ":").toList ++ List.replicate gap ' ' := by
    simp [label, spaces]
  have blank : ∀ c ∈ List.replicate gap ' ', Text.isBlank c = true := fun c member =>
    List.eq_of_mem_replicate member ▸ rfl
  rw [nameIn, String.toList_append, List.take_left' column, places,
    Text.trimEnd_append_blanks _ blank, colon, String.toList_append]
  show String.ofList (name.toList ++ [':']).dropLast = name
  rw [List.dropLast_concat, String.ofList_toList]

/-- A name that leaves two places of the width has a row with a gap. -/
theorem laidOut_row {width : Nat} {doc : OptionDoc} (fits : doc.name.length + 2 ≤ width) :
    LaidOut width doc (row width doc) := by
  have column : (label doc.name (width - (doc.name.length + 1))).length = 4 + width := by
    rw [length_label]
    omega
  rw [row_eq]
  exact
    { columns := ⟨_, by omega, rfl, column⟩
      name := nameIn_append column doc.description
      description := descriptionIn_append column doc.description }

/-! ### Blocks -/

/-- The text before the next block. -/
def opening (backends : List Backend) : String :=
  line ("Version: " ++ version) ++ String.join (usage.map line) ++ String.join (backends.map block)

/-- The text behind a block. -/
def closing (backends : List Backend) : String :=
  String.join (backends.map block) ++ "\n"

theorem render_append (front back : List Backend) :
    render (front ++ back) = opening front ++ closing back := by
  rw [render, List.map_append, String.join_append, opening, closing]
  simp only [String.append_assoc]

theorem closing_cons (backend : Backend) (back : List Backend) :
    closing (backend :: back) = block backend ++ closing back := by
  rw [closing, List.map_cons, String.join_cons, String.append_assoc]
  rfl

/-- Each option has its row, in the order of the options: the description begins in a column that
is two places behind the longest name, and it and the name are read back from the row. The block of
a backend is its header and these rows, and no other backend has a part in it: what stands before
the block depends on the backends before it, what stands behind it on those behind it, and without
the backend the rest of the text is the same. -/
theorem rows_laidOut_blocks_apart :
    (∀ options : List OptionDoc,
      List.Forall₂ (LaidOut (2 + (options.map fun doc => doc.name.length).max?.getD 0))
        options (rows options)) ∧
      ∃ before after : List Backend → String, ∀ front back,
        render (front ++ back) = before front ++ after back ∧
          ∀ backend, render (front ++ backend :: back) =
            before front ++ (line ("  " ++ backend.name ++ " (" ++ backend.language ++ "):") ++
              String.join ((rows backend.options).map line)) ++ after back := by
  refine ⟨fun options => ?_, opening, closing, fun front back => ⟨render_append front back, ?_⟩⟩
  · rw [← columnWidth_eq, rows, List.forall₂_map_right_iff, List.forall₂_same]
    exact fun doc member => laidOut_row (length_name_le_columnWidth member)
  · intro backend
    rw [render_append, closing_cons, ← String.append_assoc]
    rfl

/-- A name may end in a colon and a space, and its characters count, not their bytes. -/
example :
    rows
        [ { name := "gr\u00f6\u00dfe: ", description := ": a" },
          { name := "b", description := "" } ] =
      ["    gr\u00f6\u00dfe: : : a", "    b:       "] := by
  decide +kernel

end ThriftCommand.Help
