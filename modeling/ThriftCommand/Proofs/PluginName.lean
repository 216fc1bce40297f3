/-
This file says how a specification names a plugin, and proves that reading decides it. Two cuts are
nested: the first colon ends the head of the text, and the first equals sign of the head ends the
name and begins the path. Options hold equals signs as well, so the first one of the text may belong
to either.

The content here is that the head alone decides the name and the path, whatever stands behind it,
and that the compact grammar has the first word: an error of it is the error of the plugin, even
where the name of the plugin is missing too. A plugin that is written back is read as the same one,
although an empty path is not written.
-/

import ThriftCommand.Compact.Plugin
import ThriftCommand.Proofs.Rendering

namespace ThriftCommand

/-! ### Heads -/

/-- The text opens with this head, and ends with it or goes on behind a colon. -/
inductive CompactSpec.Opens (head : String) : String → Prop
  | whole : Opens head head
  | withOptions (rest : String) : Opens head (head ++ ":" ++ rest)

/-- The head is a name alone, or a name and a path with an equals sign between them. An empty path
is none. -/
inductive Plugin.Head (name : String) : Option String → String → Prop
  | alone : Head name none name
  | pathless : Head name none (name ++ "=")
  | located {path : String} (nonempty : path ≠ "") : Head name (some path) (name ++ "=" ++ path)

/-- The text names a plugin and the path of its executable. The name ends at the first equals sign
or colon, and the path at the first colon. -/
structure Plugin.NamedIn (text name : String) (path : Option String) : Prop where
  nonempty : name ≠ ""
  unparted : '=' ∉ name.toList
  uncut : ':' ∉ name.toList
  head : ∃ head : String, Head name path head ∧ ':' ∉ head.toList ∧ CompactSpec.Opens head text

namespace CompactSpec

/-- The name of a specification is the head of every text that writes it. -/
theorem opens_of_writtenAs {spec : CompactSpec} {text : String} (written : spec.WrittenAs text) :
    ':' ∉ spec.name.toList ∧ Opens spec.name text := by
  cases written with
  | alone uncut => exact ⟨uncut, .whole⟩
  | withOptions uncut written => exact ⟨uncut, .withOptions _⟩

/-- A head without a colon is the name of the specification that the text writes. -/
theorem Opens.name_ofText {head text : String} (opens : Opens head text)
    (uncut : ':' ∉ head.toList) : (ofText text).name = head := by
  cases opens with
  | whole => rw [ofText_alone uncut]
  | withOptions rest => rw [ofText_withOptions uncut]

/-- A text begins as its head does. -/
theorem Opens.head?_eq {head text : String} (opens : Opens head text) (nonempty : head ≠ "") :
    text.toList.head? = head.toList.head? := by
  have something : head.toList ≠ [] := fun empty => nonempty (String.toList_eq_nil_iff.mp empty)
  cases opens with
  | whole => rfl
  | withOptions rest =>
    rw [String.append_assoc, String.toList_append, List.head?_append_of_ne_nil _ something]

end CompactSpec

namespace Plugin

/-- A name does not hold a colon where its head does not. -/
theorem Head.name_uncut {name head : String} {path : Option String} (isHead : Head name path head)
    (uncut : ':' ∉ head.toList) : ':' ∉ name.toList := by
  cases isHead with
  | alone => exact uncut
  | pathless => simpa using uncut
  | located _ =>
    simp only [String.toList_append, List.mem_append, not_or] at uncut
    exact uncut.1.1

/-! ### The cut inside the head -/

theorem ofSpec_unparted {spec : CompactSpec} (unparted : '=' ∉ spec.name.toList) :
    ofSpec spec =
      if spec.name = "" then .error (.missingName spec.render)
      else .ok { name := spec.name, path := none, options := spec.options } := by
  rw [ofSpec, Text.splitFirst_of_notMem _ unparted]
  simp [Option.filter]

theorem ofSpec_parted {spec : CompactSpec} {name path : String}
    (parted : spec.name = name ++ "=" ++ path) (unparted : '=' ∉ name.toList) :
    ofSpec spec =
      if name = "" then .error (.missingName spec.render)
      else
        .ok { name, path := if path = "" then none else some path, options := spec.options } := by
  rw [ofSpec, parted, Text.splitFirst_toList rfl unparted]
  by_cases pathless : path = ""
  · simp [pathless, Option.filter]
  · simp [pathless, Option.filter]

/-- A specification names the plugin whose name and path make up its own name. -/
theorem ofSpec_eq_ok_iff {spec : CompactSpec} {plugin : Plugin} :
    ofSpec spec = .ok plugin ↔
      plugin.name ≠ "" ∧ '=' ∉ plugin.name.toList ∧ Head plugin.name plugin.path spec.name ∧
        plugin.options = spec.options := by
  obtain ⟨name, path, options⟩ := plugin
  constructor
  · intro named
    have equals : "=".toList = ['='] := rfl
    rcases Text.exists_cut equals spec.name with unparted | ⟨front, back, parted, unparted⟩
    · rw [ofSpec_unparted unparted] at named
      split at named
      · cases named
      · rename_i nonempty
        cases named
        exact ⟨nonempty, unparted, .alone, rfl⟩
    · rw [ofSpec_parted parted unparted] at named
      split at named
      · cases named
      · rename_i nonempty
        cases named
        refine ⟨nonempty, unparted, ?_, rfl⟩
        rw [parted]
        split
        · rename_i pathless
          rw [pathless, String.append_empty]
          exact .pathless
        · rename_i located
          exact .located located
  · rintro ⟨nonempty, unparted, head, rfl⟩
    generalize whole : spec.name = specName at head
    cases head with
    | alone =>
      rw [ofSpec_unparted (whole ▸ unparted), whole, if_neg nonempty]
    | pathless =>
      have parted : spec.name = name ++ "=" ++ "" := by rw [whole, String.append_empty]
      rw [ofSpec_parted parted unparted, if_neg nonempty, if_pos rfl]
    | located located =>
      rw [ofSpec_parted whole unparted, if_neg nonempty, if_neg located]

/-- A specification with a name names no plugin exactly when its name begins with the equals
sign. -/
theorem ofSpec_eq_error_iff {spec : CompactSpec} (named : spec.name ≠ "") {error : SpecError} :
    ofSpec spec = .error error ↔
      spec.name.toList.head? = some '=' ∧ error = .missingName spec.render := by
  have equals : "=".toList = ['='] := rfl
  rcases Text.exists_cut equals spec.name with unparted | ⟨name, path, parted, unparted⟩
  · rw [ofSpec_unparted unparted, if_neg named]
    refine iff_of_false (by simp) fun ⟨begins, _⟩ => unparted ?_
    exact List.mem_of_head? begins
  · rw [ofSpec_parted parted unparted, parted, String.append_assoc, String.toList_append]
    by_cases empty : name = ""
    · simp [empty, eq_comm]
    · have something : name.toList ≠ [] := fun none => empty (String.toList_eq_nil_iff.mp none)
      rw [if_neg empty, List.head?_append_of_ne_nil _ something]
      refine iff_of_false (by simp) fun ⟨begins, _⟩ => unparted ?_
      exact List.mem_of_head? begins

/-! ### What a text names -/

/-- The plugin that a text names is that of its head, with the options of the compact grammar. -/
theorem parse_eq_ok_iff {text : String} {plugin : Plugin} :
    parse text = .ok plugin ↔
      NamedIn text plugin.name plugin.path ∧
        ∃ spec, CompactSpec.parse text = .ok spec ∧ spec.options = plugin.options := by
  unfold parse
  cases read : CompactSpec.parse text with
  | error error => simp
  | ok spec =>
    obtain ⟨written, -, -⟩ := CompactSpec.parse_eq_ok_iff.mp read
    obtain ⟨uncut, opens⟩ := CompactSpec.opens_of_writtenAs written
    simp only [ofSpec_eq_ok_iff, Except.ok.injEq, exists_eq_left']
    constructor
    · rintro ⟨nonempty, unparted, head, options⟩
      exact ⟨⟨nonempty, unparted, head.name_uncut uncut, spec.name, head, uncut, opens⟩,
        options.symm⟩
    · rintro ⟨⟨nonempty, unparted, -, head, isHead, headUncut, headOpens⟩, options⟩
      have same : head = spec.name :=
        (headOpens.name_ofText headUncut).symm.trans (opens.name_ofText uncut)
      exact ⟨nonempty, unparted, same ▸ isHead, options.symm⟩

/-- An error of the compact grammar comes first, and then that of a name which is missing. -/
theorem parse_eq_error_iff {text : String} {error : SpecError} :
    parse text = .error error ↔
      CompactSpec.parse text = .error error ∨
        text.toList.head? = some '=' ∧
          ∃ spec, CompactSpec.parse text = .ok spec ∧ error = .missingName spec.render := by
  unfold parse
  cases read : CompactSpec.parse text with
  | error other => simp
  | ok spec =>
    obtain ⟨written, named, -⟩ := CompactSpec.parse_eq_ok_iff.mp read
    obtain ⟨-, opens⟩ := CompactSpec.opens_of_writtenAs written
    simp [ofSpec_eq_error_iff named, opens.head?_eq named]

/-! ### Writing a plugin back -/

/-- The specification that names the plugin, with its path if it has one. -/
def toSpec (plugin : Plugin) : CompactSpec where
  name :=
    match plugin.path with
    | none => plugin.name
    | some path => plugin.name ++ "=" ++ path
  options := plugin.options

/-- The name that a plugin is written back with is a head of its own: it lost an empty path at
most. -/
theorem Head.toSpec {plugin : Plugin} {head : String}
    (isHead : Head plugin.name plugin.path head) (nonempty : plugin.name ≠ "")
    (uncut : ':' ∉ head.toList) :
    Head plugin.name plugin.path plugin.toSpec.name ∧ plugin.toSpec.name ≠ "" ∧
      ':' ∉ plugin.toSpec.name.toList := by
  have nameUncut := isHead.name_uncut uncut
  obtain ⟨name, path, options⟩ := plugin
  cases path with
  | none => exact ⟨.alone, nonempty, nameUncut⟩
  | some path =>
    cases isHead with
    | located located => exact ⟨.located located, by simp [Plugin.toSpec], uncut⟩

/-- A plugin that was read comes back from the specification that names it. -/
theorem parse_render_toSpec {text : String} {plugin : Plugin} (read : parse text = .ok plugin) :
    parse plugin.toSpec.render = .ok plugin := by
  obtain ⟨⟨nonempty, unparted, uncut, whole, head, wholeUncut, -⟩, spec, specRead, options⟩ :=
    parse_eq_ok_iff.mp read
  obtain ⟨-, -, keyed, keysUncut, valuesUncut⟩ := CompactSpec.wellFormed_of_parse specRead
  obtain ⟨sameHead, named, nameUncut⟩ := head.toSpec nonempty wholeUncut
  rw [options] at keyed keysUncut valuesUncut
  have wellFormed : plugin.toSpec.WellFormed :=
    ⟨named, nameUncut, keyed, keysUncut, valuesUncut⟩
  rw [parse, wellFormed.parse_render]
  exact ofSpec_eq_ok_iff.mpr ⟨nonempty, unparted, sameHead, rfl⟩

/-- A text names a plugin exactly when the compact grammar reads it and it does not begin with the
equals sign. Name and path are those of its head, and the options those of the compact grammar. An
error of the compact grammar comes before that of a missing name. A plugin that is written back is
read as the same one. -/
theorem parse_decides_name (text : String) :
    ((∃ plugin, parse text = .ok plugin) ↔
        (∃ spec, CompactSpec.parse text = .ok spec) ∧ text.toList.head? ≠ some '=') ∧
      (∀ error, parse text = .error error ↔
        CompactSpec.parse text = .error error ∨
          text.toList.head? = some '=' ∧
            ∃ spec, CompactSpec.parse text = .ok spec ∧ error = .missingName spec.render) ∧
      (∀ plugin, parse text = .ok plugin ↔
        NamedIn text plugin.name plugin.path ∧
          ∃ spec, CompactSpec.parse text = .ok spec ∧ spec.options = plugin.options) ∧
      ∀ plugin, parse text = .ok plugin → parse plugin.toSpec.render = .ok plugin := by
  refine ⟨?_, fun error => parse_eq_error_iff, fun plugin => parse_eq_ok_iff,
    fun plugin => parse_render_toSpec⟩
  constructor
  · rintro ⟨plugin, read⟩
    obtain ⟨-, spec, specRead, -⟩ := parse_eq_ok_iff.mp read
    refine ⟨⟨spec, specRead⟩, fun begins => ?_⟩
    have refused := parse_eq_error_iff.mpr (Or.inr ⟨begins, spec, specRead, rfl⟩)
    cases read.symm.trans refused
  · rintro ⟨⟨spec, specRead⟩, begins⟩
    cases answer : parse text with
    | ok plugin => exact ⟨plugin, rfl⟩
    | error error =>
      rcases parse_eq_error_iff.mp answer with refused | ⟨missing, -⟩
      · cases specRead.symm.trans refused
      · exact absurd missing begins

/-- A path and an option hold equals signs of their own here. An empty path is lost when the plugin
is written back, and a repeated key comes before a missing name. -/
theorem parse_decides_name_nested :
    parse (toSpec ⟨"kitex", some "/bin/k=1", [⟨"a", some "b=:"⟩]⟩).render =
        .ok ⟨"kitex", some "/bin/k=1", [⟨"a", some "b=:"⟩]⟩ ∧
      parse (toSpec ⟨"kitex", none, [⟨"a", none⟩]⟩).render = .ok ⟨"kitex", none, [⟨"a", none⟩]⟩ ∧
      parse "=x:a,a" = .error (.duplicateKey "=x:a,a" "a") ∧
      parse "=x:" = .error (.missingName "=x") := by
  obtain ⟨-, -, -, nested⟩ := parse_decides_name "kitex=/bin/k=1:a=b=:"
  obtain ⟨-, -, -, pathless⟩ := parse_decides_name "kitex=:a"
  obtain ⟨-, repeated, -, -⟩ := parse_decides_name "=x:a,a"
  obtain ⟨-, missing, -, -⟩ := parse_decides_name "=x:"
  exact ⟨nested _ rfl, pathless _ rfl, (repeated _).mpr (Or.inl rfl),
    (missing _).mpr (Or.inr ⟨rfl, ⟨"=x", []⟩, rfl, rfl⟩)⟩

end Plugin

end ThriftCommand
