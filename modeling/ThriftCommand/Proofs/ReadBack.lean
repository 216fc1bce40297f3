/-
This file proves that everything that can be settled can be written down and is read back as it
was. Each flag is written with two dashes and its value behind an equals sign, and operands stand
behind two dashes alone. Values and operands are arbitrary text: one that looks like a flag, that
holds an equals sign or that is empty is neither rewritten nor split, and takes no neighbour with
it. Flags may come in any order, as long as the values of each parameter keep theirs.
-/

import ThriftCommand.Proofs.Respelling

namespace ThriftCommand

open Spelling

/-! ### Writing settings down -/

/-- The setting with two dashes, its value attached. -/
def Setting.written : Setting → String
  | .switch which position => "--" ++ which.name ++ "=" ++ if position then "true" else "false"
  | .parameter which value => "--" ++ which.name ++ "=" ++ value

/-- Settled values as one occurrence each, flag after flag. -/
def Settings.occurrences (settings : Settings) : List Setting :=
  Switch.all.map (fun which => .switch which (settings.position which)) ++
    Parameter.all.flatMap fun which => (settings.values which).map (.parameter which)

/-- The occurrences of settled values in any order that keeps the values of each parameter in
theirs. -/
structure Settings.Interleaves (settings : Settings) (order : List Setting) : Prop where
  all : order.Perm settings.occurrences
  kept : ∀ which, ((settings.values which).map (Setting.parameter which)).Sublist order

theorem optionSequence_of_written (order : List Setting) :
    OptionSequence LooseToken (order.map Setting.written) order := by
  induction order with
  | nil => exact .nil
  | cons setting rest inductionHypothesis =>
    have alternative : Alternative [setting.written] setting := by
      cases setting with
      | switch which position =>
        cases position with
        | false => exact .longWord (Or.inr rfl) which rfl
        | true => exact .longWord (Or.inr rfl) which rfl
      | parameter which value => exact .longValue (Or.inr rfl) which value
    exact alternative.sequence.append inductionHypothesis

/-! ### What the occurrences say -/

/-- Every switch occurs once. -/
theorem Settings.positionOf?_occurrences (settings : Settings) (which : Switch) :
    settings.occurrences.filterMap (·.positionOf? which) = [settings.position which] := by
  have silent : (Parameter.all.flatMap fun other =>
      (settings.values other).map (Setting.parameter other)).filterMap
        (·.positionOf? which) = [] := by
    rw [List.filterMap_eq_nil_iff]
    intro setting member
    obtain ⟨other, -, member⟩ := List.mem_flatMap.mp member
    obtain ⟨value, -, rfl⟩ := List.mem_map.mp member
    rfl
  rw [occurrences, List.filterMap_append, silent, List.append_nil]
  cases which <;> rfl

/-- The values of a parameter say nothing of another one. -/
theorem Setting.filterMap_valueOf?_map (which other : Parameter) (values : List String) :
    (values.map (Setting.parameter other)).filterMap (·.valueOf? which) =
      if other = which then values else [] := by
  rw [List.filterMap_map]
  split
  · rename_i same
    have own : (Setting.valueOf? · which) ∘ Setting.parameter other = some :=
      funext fun value => if_pos same
    rw [own, List.filterMap_some]
  · rename_i different
    have silent : (Setting.valueOf? · which) ∘ Setting.parameter other = fun _ => none :=
      funext fun value => if_neg different
    rw [silent, List.filterMap_eq_nil_iff]
    exact fun _ _ => rfl

/-- Every value of a parameter occurs, in order. -/
theorem Settings.valueOf?_occurrences (settings : Settings) (which : Parameter) :
    settings.occurrences.filterMap (·.valueOf? which) = settings.values which := by
  have silent : (Switch.all.map fun other =>
      Setting.switch other (settings.position other)).filterMap (·.valueOf? which) = [] := rfl
  rw [occurrences, List.filterMap_append, silent, List.nil_append, List.filterMap_flatMap]
  simp only [Setting.filterMap_valueOf?_map]
  cases which <;> simp [Parameter.all]

/-- The order of the flags is one of the orders. -/
theorem Settings.interleaves_occurrences (settings : Settings) :
    settings.Interleaves settings.occurrences := by
  refine ⟨List.Perm.refl _, fun which => ?_⟩
  have member : which ∈ Parameter.all := by cases which <;> decide
  have listed := List.mem_map_of_mem (f := fun which =>
    (settings.values which).map (Setting.parameter which)) member
  exact (List.sublist_flatten_of_mem listed).trans (List.sublist_append_right _ _)

/-- Whatever their order, the occurrences settle what they were written for. Nothing of a parameter
is left out, so what keeps its order is all there is. -/
theorem Settings.Interleaves.ofList {settings : Settings} {order : List Setting}
    (interleaves : settings.Interleaves order) : Settings.ofList order = settings := by
  have positions (which : Switch) :
      order.filterMap (·.positionOf? which) = [settings.position which] := by
    have arranged := interleaves.all.filterMap (·.positionOf? which)
    rw [settings.positionOf?_occurrences] at arranged
    exact List.perm_singleton.mp arranged
  have values (which : Parameter) :
      order.filterMap (·.valueOf? which) = settings.values which := by
    have arranged := interleaves.all.filterMap (·.valueOf? which)
    have inOrder := (interleaves.kept which).filterMap (·.valueOf? which)
    rw [settings.valueOf?_occurrences] at arranged
    rw [Setting.filterMap_valueOf?_map, if_pos rfl] at inOrder
    exact (inOrder.eq_of_length arranged.length_eq.symm).symm
  refine (Settings.settles_iff.mp ⟨fun which => ?_, ?_, fun which _ => ?_⟩).symm
  · rw [positions]
    rfl
  · rw [values, Settings.values]
    cases settings.output <;> rfl
  · rw [values]

/-! ### Reading it back -/

/-- Whatever is settled, and whatever the operands are, can be written down. However the flags are
arranged, reading gives back just that. -/
theorem ofArguments_written (program : Token) (line : CommandLine) :
    (∃ order, line.settings.Interleaves order) ∧
    ∀ order, line.settings.Interleaves order →
      CommandLine.ofArguments (canonicalArguments (program ::
        (order.map Setting.written ++ "--" :: line.operands).map Token.ofString)) = .ok line := by
  refine ⟨⟨_, line.settings.interleaves_occurrences⟩, fun order interleaves => ?_⟩
  have ending : Reading.ofTokens
      (Layout.ofTokens (("--" :: line.operands).map Token.ofString)).canonical =
        .ok { units := [], operands := line.operands } := by
    have stopped : stops (Token.ofString "--") = true := rfl
    rw [List.map_cons, Layout.ofTokens_of_stops stopped]
    exact Reading.ofTokens_of_ending (.dashes line.operands)
  rw [List.map_append, ofArguments_of_optionSequence (optionSequence_of_written order), ending]
  show Except.ok (CommandLine.mk (Settings.ofList (order ++ [])) line.operands) = _
  rw [List.append_nil, interleaves.ofList]

/-- Values and operands that look like flags, or like nothing, the flags in no order. -/
theorem ofArguments_written_misleading :
    CommandLine.ofArguments (canonicalArguments (Token.ofString "thriftgen" :: ["--gen=--",
        "--quiet=false", "--include=", "--recurse=true", "--gen=-out", "--verbose=false",
        "--out==x=", "--include=-o", "--version=false", "--help=true", "--plugin=\n", "--", "--",
        "-gen", ""].map Token.ofString)) =
      .ok { settings := { help := true, recurse := true, output := some "=x=",
                          includes := ["", "-o"], targets := ["--", "-out"], plugins := ["\n"] }
            operands := ["--", "-gen", ""] } := by
  let settings : Settings :=
    { help := true, recurse := true, output := some "=x=", includes := ["", "-o"],
      targets := ["--", "-out"], plugins := ["\n"] }
  let order : List Setting :=
    [.parameter .target "--", .switch .quiet false, .parameter .includeDir "",
      .switch .recurse true, .parameter .target "-out", .switch .verbose false,
      .parameter .output "=x=", .parameter .includeDir "-o", .switch .version false,
      .switch .help true, .parameter .plugin "\n"]
  have interleaves : settings.Interleaves order :=
    ⟨by decide, fun which => by cases which <;> decide⟩
  have tokens : order.map Setting.written =
      ["--gen=--", "--quiet=false", "--include=", "--recurse=true", "--gen=-out",
        "--verbose=false", "--out==x=", "--include=-o", "--version=false", "--help=true",
        "--plugin=\n"] := by decide
  have read := (ofArguments_written (Token.ofString "thriftgen")
    { settings, operands := ["--", "-gen", ""] }).2 order interleaves
  rwa [tokens] at read

end ThriftCommand
