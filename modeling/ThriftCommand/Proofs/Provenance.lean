/-
This file proves that a run is configured by nothing but its arguments: every text of a
configuration stands in one of them, character by character. A value is a part of the token that
writes it, or the token behind it; the interface file is an operand. What is true of all characters
of the arguments is therefore true of all that a run can say about its configuration.
-/

import ThriftCommand.Proofs.Refusal

namespace ThriftCommand

/-! ### Values and the tokens that write them -/

/-- Every value among the settings stands in the text. -/
def ValuesWithin (text : String) (settings : List Setting) : Prop :=
  ∀ which value, Setting.parameter which value ∈ settings → value.toList ⊆ text.toList

theorem ValuesWithin.of_subset {part text : String} {settings : List Setting}
    (within : ValuesWithin part settings) (subset : part.toList ⊆ text.toList) :
    ValuesWithin text settings :=
  fun which value member => List.Subset.trans (within which value member) subset

theorem valuesWithin_of_switch (text : String) (which : Switch) (position : Bool) :
    ValuesWithin text [.switch which position] := by
  intro parameter value member
  cases List.mem_singleton.mp member

theorem valuesWithin_attached (which : Parameter) (text : String) :
    ValuesWithin text [.parameter which (attachedValue text)] := by
  intro parameter value member
  cases List.mem_singleton.mp member
  intro c among
  unfold attachedValue at among
  split at among
  · rename_i rest parted
    rw [String.toList_ofList] at among
    exact parted ▸ List.mem_cons_of_mem _ among
  · exact among

theorem toList_subset_append_left (first second : String) :
    first.toList ⊆ (first ++ second).toList := by
  rw [String.toList_append]
  exact List.subset_append_left _ _

theorem toList_subset_append_right (first second : String) :
    second.toList ⊆ (first ++ second).toList := by
  rw [String.toList_append]
  exact List.subset_append_right _ _

theorem ClusterEnd.valuesWithin {ending : String} {settings : List Setting}
    {awaiting : Option Parameter} (ends : ClusterEnd ending settings awaiting) :
    ValuesWithin ending settings := by
  cases ends with
  | nothing | awaiting => exact fun _ _ member => absurd member List.not_mem_nil
  | word bears known => exact valuesWithin_of_switch _ _ _
  | attached which nonempty =>
    exact (valuesWithin_attached which _).of_subset (toList_subset_append_right _ _)

theorem OptionToken.valuesWithin {token : String} {settings : List Setting}
    {awaiting : Option Parameter} (written : OptionToken token settings awaiting) :
    ValuesWithin token settings := by
  cases written with
  | switch which | switchTo which known => exact valuesWithin_of_switch _ _ _
  | parameter which => exact fun _ _ member => absurd member List.not_mem_nil
  | parameterTo which value =>
    intro other given member
    cases List.mem_singleton.mp member
    exact toList_subset_append_right _ _
  | cluster lettered ends nonempty =>
    intro which value member
    rcases List.mem_append.mp member with bare | last
    · obtain ⟨switch, -, same⟩ := List.mem_map.mp bare
      cases same
    · exact (ends.valuesWithin.of_subset (toList_subset_append_right _ _)) which value last

theorem LooseToken.valuesWithin {token : String} {settings : List Setting}
    {awaiting : Option Parameter} (written : LooseToken token settings awaiting) :
    ValuesWithin token settings := by
  cases written with
  | plain written apart => exact written.valuesWithin
  | shortened written => exact written.valuesWithin.of_subset (by simp)

/-- Every value of a sequence of options stands in one of its tokens. -/
theorem exists_token_of_mem {options : List String} {occurrences : List Setting}
    (complete : OptionSequence LooseToken options occurrences) {which : Parameter} {value : String}
    (member : .parameter which value ∈ occurrences) :
    ∃ token ∈ options, value.toList ⊆ token.toList := by
  induction complete with
  | nil => cases member
  | cons first _ inductionHypothesis =>
    rcases List.mem_append.mp member with here | later
    · cases first with
      | complete written =>
        exact ⟨_, List.mem_append_left _ List.mem_cons_self, written.valuesWithin which value here⟩
      | @separate token separate settings parameter written plain =>
        rcases List.mem_append.mp here with within | last
        · exact ⟨token, List.mem_append_left _ List.mem_cons_self,
            written.valuesWithin which value within⟩
        · cases List.mem_singleton.mp last
          exact ⟨value, List.mem_append_left _ (List.mem_cons_of_mem _ List.mem_cons_self),
            List.Subset.refl _⟩
    · obtain ⟨token, among, subset⟩ := inductionHypothesis later
      exact ⟨token, List.mem_append_right _ among, subset⟩

/-- Every settled value was given by a setting. -/
theorem mem_of_mem_values {occurrences : List Setting} {which : Parameter} {value : String}
    (member : value ∈ (Settings.ofList occurrences).values which) :
    .parameter which value ∈ occurrences := by
  have settled := Settings.settles_ofList occurrences
  have given : value ∈ occurrences.filterMap (·.valueOf? which) := by
    by_cases output : which = .output
    · subst output
      rw [Settings.values, settled.output, Option.mem_toList] at member
      exact List.mem_of_getLast? member
    · rwa [settled.gathered which output] at member
  obtain ⟨setting, among, about⟩ := List.mem_filterMap.mp given
  cases setting with
  | switch other position => cases about
  | parameter other text =>
    rw [Setting.valueOf?] at about
    split at about
    · rename_i same
      cases about
      exact same ▸ among
    · cases about

/-! ### Configurations -/

/-- The texts that a configuration holds. -/
def Configuration.texts (configuration : Configuration) : List String :=
  configuration.idl :: configuration.output.toList ++ configuration.includes.toList
    ++ configuration.targets.toList ++ configuration.plugins.toList

/-- A text of a configuration is its interface file, or a value that is settled. -/
theorem Configuration.Holds.mem_texts {configuration : Configuration} {settings : Settings}
    (holds : configuration.Holds settings) {text : String} (member : text ∈ configuration.texts) :
    text = configuration.idl ∨ ∃ which, text ∈ settings.values which := by
  simp only [texts, holds.includes, holds.targets, holds.plugins, List.mem_append, List.mem_cons,
    Option.mem_toList] at member
  rcases member with (((rfl | output) | included) | target) | plugin
  · exact Or.inl rfl
  · exact Or.inr ⟨.output, Option.mem_toList.mpr ((holds.output text).mp output).1⟩
  · exact Or.inr ⟨.includeDir, included⟩
  · exact Or.inr ⟨.target, target⟩
  · exact Or.inr ⟨.plugin, plugin⟩

/-- A run has one operand, and its configuration holds what is settled. -/
theorem exists_idl_of_run {settings : Settings} {operands : List String}
    {configuration : Configuration}
    (run : Invocation.ofCommandLine { settings, operands } = .ok (.run configuration)) :
    operands = [configuration.idl] ∧ configuration.Holds settings := by
  have answer := Answer.ofCommandLine settings operands
  have holds := Configuration.awaitingIdl_holds settings
  rw [run] at answer
  generalize Configuration.awaitingIdl settings = awaiting at answer holds
  cases answer with
  | run noHelp noVersion nonempty =>
    exact ⟨rfl, holds.recurse, holds.verbose, holds.quiet, holds.output, holds.includes,
      holds.plugins, holds.targets⟩

/-- The operands of an ending stand in it. -/
theorem Ending.mem_of_mem {ending operands : List String} (ends : Ending ending operands)
    {operand : String} (member : operand ∈ operands) : operand ∈ ending := by
  cases ends with
  | nothing => cases member
  | dashes => exact List.mem_cons_of_mem _ member
  | operands plain others => exact member

/-- Every text that a run is configured with stands in one of the arguments. -/
theorem exists_argument_of_mem_texts {arguments : List String} {configuration : Configuration}
    (run : Invocation.ofArguments (arguments.map Token.ofString) = .ok (.run configuration))
    {text : String} (member : text ∈ configuration.texts) :
    ∃ argument ∈ arguments.tail, text.toList ⊆ argument.toList := by
  cases arguments with
  | nil => cases run
  | cons program rest =>
    obtain ⟨options, occurrences, ending, rfl, complete, ⟨operands, ends⟩ | ⟨error, fault⟩⟩ :=
      exists_options rest
    · rw [List.map_cons, ofArguments_of_ending complete ends] at run
      obtain ⟨rfl, holds⟩ := exists_idl_of_run run
      rcases holds.mem_texts member with rfl | ⟨which, settled⟩
      · exact ⟨_, List.mem_append_right _ (ends.mem_of_mem List.mem_cons_self),
          List.Subset.refl _⟩
      · obtain ⟨token, among, subset⟩ := exists_token_of_mem complete (mem_of_mem_values settled)
        exact ⟨token, List.mem_append_left _ among, subset⟩
    · rw [List.map_cons, List.map_append, ofArguments_of_fault complete fault] at run
      cases run

end ThriftCommand
