/-
This file says what becomes of the entries for targets and for plugins. They are resolved one after
the other, and the first that does not resolve decides, whatever stands behind it; its error repeats
the entry, which is how the user finds it.

An error can arise in two places, and only one of them has the entry at hand. Where a plugin has no
name, the specification was read before and is written back for the message. The content here is
that this is the entry again, unless the entry ends with the lone colon that reading forgets.
-/

import ThriftCommand.Configuration
import ThriftCommand.Proofs.PluginName
import ThriftCommand.Proofs.Resolution

namespace ThriftCommand

/-! ### The entry in the error -/

/-- The error repeats this text as the specification that is wrong. -/
inductive SpecError.Repeats (text : String) : SpecError → Prop
  | missingName : Repeats text (.missingName text)
  | emptyKey : Repeats text (.emptyKey text)
  | duplicateKey (key : String) : Repeats text (.duplicateKey text key)

/-- A complaint about an option repeats the whole text. -/
theorem SpecOption.Complaint.repeats {text : String} {options : List SpecOption}
    {error : SpecError} (complaint : Complaint text options error) : error.Repeats text := by
  cases complaint with
  | emptyKey _ _ _ => exact .emptyKey
  | duplicateKey _ _ _ _ => exact .duplicateKey _

/-- Reading complains of the text that it was given. -/
theorem CompactSpec.repeats_of_parse {text : String} {error : SpecError}
    (refused : parse text = .error error) : error.Repeats text := by
  rcases parse_eq_error_iff.mp refused with ⟨-, rfl⟩ | ⟨-, complaint⟩
  · exact .missingName
  · exact complaint.repeats

namespace Plugin

/-- The entry is a head without a name, and a colon behind it that nothing follows. -/
structure LoneColon (entry head : String) : Prop where
  nameless : head.toList.head? = some '='
  uncut : ':' ∉ head.toList
  closed : entry = head ++ ":"

/-- The colon is not repeated: reading does not keep it. -/
theorem LoneColon.parse_eq {entry head : String} (lone : LoneColon entry head) :
    parse entry = .error (.missingName head) := by
  obtain ⟨nameless, uncut, rfl⟩ := lone
  have named : head ≠ "" := by
    rintro rfl
    cases nameless
  have wellFormed : CompactSpec.WellFormed ⟨head, []⟩ :=
    ⟨named, uncut, ⟨by simp, by simp⟩, by simp, by simp⟩
  have read : CompactSpec.parse (head ++ ":") = .ok ⟨head, []⟩ :=
    CompactSpec.parse_eq_ok_iff_render.mpr ⟨wellFormed, Or.inr ⟨rfl, rfl⟩⟩
  have begins : (head ++ ":").toList.head? = some '=' := by simp [nameless]
  exact parse_eq_error_iff.mpr (Or.inr ⟨begins, _, read, rfl⟩)

/-- Every other entry is repeated as it is, also where the specification was written back: what was
read is rendered as the entry, unless the entry loses its lone colon. -/
theorem repeats_of_parse {entry : String} {error : SpecError}
    (refused : parse entry = .error error) (whole : ∀ head, ¬LoneColon entry head) :
    error.Repeats entry := by
  rcases parse_eq_error_iff.mp refused with compact | ⟨begins, spec, read, rfl⟩
  · exact CompactSpec.repeats_of_parse compact
  · obtain ⟨wellFormed, rfl | ⟨optionless, rfl⟩⟩ := CompactSpec.parse_eq_ok_iff_render.mp read
    · exact .missingName
    · rw [CompactSpec.render_of_optionless optionless] at whole begins
      have nonempty : spec.name.toList ≠ [] := mt String.toList_eq_nil_iff.mp wellFormed.named
      rw [String.toList_append, List.head?_append_of_ne_nil _ nonempty] at begins
      exact absurd ⟨begins, wellFormed.name_uncut, rfl⟩ (whole spec.name)

end Plugin

/-! ### The entries of a run -/

namespace Configuration

/-- The targets of a run are those of all its entries, one for each and in order, or there is the
error of the first entry that names none, whatever stands behind it; and so are the plugins. The
error repeats that entry as it was written. Only of a plugin without a name the lone colon at the
end is not repeated. -/
theorem resolves_until_first_error (configuration : Configuration) :
    (StopsAtFirst Target.parse fun entries =>
        { configuration with targets := Occurrences.ofList entries }.resolveTargets) ∧
      (StopsAtFirst Plugin.parse fun entries =>
        { configuration with plugins := Occurrences.ofList entries }.resolvePlugins) ∧
      (∀ entry error, Target.parse entry = .error error → error.Repeats entry) ∧
      (∀ entry error, Plugin.parse entry = .error error → (∀ head, ¬Plugin.LoneColon entry head) →
        error.Repeats entry) ∧
      ∀ entry head, Plugin.LoneColon entry head →
        Plugin.parse entry = .error (.missingName head) := by
  refine ⟨?_, ?_, fun entry error refused => ?_, fun entry error => Plugin.repeats_of_parse,
    fun entry head => Plugin.LoneColon.parse_eq⟩
  · simp only [resolveTargets, Occurrences.toList_ofList]
    exact stopsAtFirst_mapM Target.parse
  · simp only [resolvePlugins, Occurrences.toList_ofList]
    exact stopsAtFirst_mapM Plugin.parse
  · exact CompactSpec.repeats_of_parse (Target.parse_eq_error_iff.mp refused)

/-- A later entry is wrong as well here, and is not looked at. The entry for a plugin without a name
loses its colon in the error, and with an option behind the colon it loses nothing. -/
theorem resolves_until_first_error_nameless :
    (⟨false, false, false, false, none, {}, Occurrences.ofList ["kitex", "=x:", ":bad"], {}, "f"⟩ :
        Configuration).resolvePlugins = .error (.missingName "=x") ∧
      (SpecError.missingName "=x:a").Repeats "=x:a" ∧
      (⟨false, false, false, false, none, {}, {}, Occurrences.ofList ["go", "go:=1", ""], "f"⟩ :
        Configuration).resolveTargets = .error (.emptyKey "go:=1") := by
  obtain ⟨targets, plugins, -, repeats, loneColon⟩ :=
    resolves_until_first_error ⟨false, false, false, false, none, {}, {}, {}, "f"⟩
  have kitex : ∀ other ∈ ["kitex"], ∃ plugin, Plugin.parse other = .ok plugin := by
    simp only [List.mem_singleton, forall_eq]
    exact ⟨⟨"kitex", none, []⟩, rfl⟩
  have go : ∀ other ∈ ["go"], ∃ target, Target.parse other = .ok target := by
    simp only [List.mem_singleton, forall_eq]
    exact ⟨⟨"go", []⟩, rfl⟩
  have closed : Plugin.LoneColon "=x:" "=x" := ⟨rfl, by decide, rfl⟩
  have optioned : ∀ head, ¬Plugin.LoneColon "=x:a" head := by
    rintro head ⟨-, -, ends⟩
    have last := congrArg (fun text => text.toList.getLast?) ends
    simp at last
  exact ⟨plugins.regardless _ _ _ kitex (loneColon _ _ closed) _,
    repeats _ _ rfl optioned, targets.regardless _ _ _ go rfl _⟩

end Configuration

end ThriftCommand
