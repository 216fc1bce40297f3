/-
This file says what a list of settings settles, read off the list as a whole. A switch stands at
the position of its last occurrence, and is off without one; the output directory is the last one
that was named; include directories, targets and plugins are all of theirs, in order. The settled
values come from applying the settings one after the other, so the content here is one step,
carried along the list.
-/

import ThriftCommand.Flag.Setting

namespace ThriftCommand

/-! ### What one setting says of one flag -/

/-- The position that the setting gives to `which`, if it is about that switch. -/
def Setting.positionOf? (setting : Setting) (which : Switch) : Option Bool :=
  match setting with
  | .switch other position => if other = which then some position else none
  | .parameter _ _ => none

/-- The value that the setting gives to `which`, if it is about that parameter. -/
def Setting.valueOf? (setting : Setting) (which : Parameter) : Option String :=
  match setting with
  | .switch _ _ => none
  | .parameter other value => if other = which then some value else none

/-- The settled position of a switch. -/
def Settings.position (settings : Settings) : Switch → Bool
  | .version => settings.version
  | .help => settings.help
  | .recurse => settings.recurse
  | .verbose => settings.verbose
  | .quiet => settings.quiet

/-- The settled values of a parameter, of which the output directory has one at most. -/
def Settings.values (settings : Settings) : Parameter → List String
  | .output => settings.output.toList
  | .includeDir => settings.includes
  | .target => settings.targets
  | .plugin => settings.plugins

/-- Nothing is settled beyond the flags. -/
theorem Settings.eq_of_flags {first second : Settings}
    (positions : ∀ which, first.position which = second.position which)
    (values : ∀ which, first.values which = second.values which) : first = second := by
  have output : first.output = second.output := by
    simpa [Settings.values] using congrArg List.head? (values .output)
  have version := positions .version
  have help := positions .help
  have recurse := positions .recurse
  have verbose := positions .verbose
  have quiet := positions .quiet
  have includes := values .includeDir
  have targets := values .target
  have plugins := values .plugin
  cases first
  cases second
  simp only [position, Settings.values] at *
  simp only [*]

/-! ### What one setting changes -/

/-- A switch moves where the setting is about it, and nowhere else. -/
theorem Settings.position_apply (settings : Settings) (setting : Setting) (which : Switch) :
    (settings.apply setting).position which =
      (setting.positionOf? which).getD (settings.position which) := by
  cases setting with
  | switch other position => cases other <;> cases which <;> rfl
  | parameter other value => cases other <;> cases which <;> rfl

/-- A directory named later takes the place of the one before. -/
theorem Settings.output_apply (settings : Settings) (setting : Setting) :
    (settings.apply setting).output = (setting.valueOf? .output).or settings.output := by
  cases setting with
  | switch other position => cases other <;> rfl
  | parameter other value => cases other <;> rfl

/-- The other parameters gather. -/
theorem Settings.values_apply (settings : Settings) (setting : Setting) {which : Parameter}
    (gathers : which ≠ .output) :
    (settings.apply setting).values which =
      settings.values which ++ (setting.valueOf? which).toList := by
  cases setting with
  | switch other position =>
    rw [Setting.valueOf?, Option.toList_none, List.append_nil]
    cases other <;> rfl
  | parameter other value =>
    by_cases same : other = which
    · rw [Setting.valueOf?, if_pos same]
      subst same
      cases other with
      | output => exact absurd rfl gathers
      | includeDir | target | plugin => rfl
    · rw [Setting.valueOf?, if_neg same, Option.toList_none, List.append_nil]
      cases other <;> cases which <;> first | rfl | exact absurd rfl same

/-! ### What a list of settings says -/

/-- The settled values that a list of occurrences asks for. -/
structure Settings.Settles (settings : Settings) (occurrences : List Setting) : Prop where
  position : ∀ which, settings.position which =
    (occurrences.filterMap (·.positionOf? which)).getLast?.getD false
  output : settings.output = (occurrences.filterMap (·.valueOf? .output)).getLast?
  gathered : ∀ which, which ≠ .output →
    settings.values which = occurrences.filterMap (·.valueOf? which)

/-- One more occurrence settles what the longer list asks for. -/
theorem Settings.Settles.apply {settings : Settings} {occurrences : List Setting}
    (settled : settings.Settles occurrences) (setting : Setting) :
    (settings.apply setting).Settles (occurrences ++ [setting]) := by
  refine ⟨fun which => ?_, ?_, fun which gathers => ?_⟩
  · rw [Settings.position_apply, settled.position, List.filterMap_append,
      List.getLast?_append]
    cases about : setting.positionOf? which with
    | none => simp [about]
    | some position => simp [about]
  · rw [Settings.output_apply, settled.output, List.filterMap_append, List.getLast?_append]
    cases about : setting.valueOf? .output with
    | none => simp [about]
    | some value => simp [about]
  · rw [Settings.values_apply settings setting gathers, settled.gathered which gathers,
      List.filterMap_append]
    cases about : setting.valueOf? which with
    | none => simp [about]
    | some value => simp [about]

/-- The occurrences that follow carry on from what is settled. -/
theorem Settings.Settles.foldl_apply {settings : Settings} {occurrences : List Setting}
    (settled : settings.Settles occurrences) (later : List Setting) :
    (later.foldl Settings.apply settings).Settles (occurrences ++ later) := by
  induction later generalizing settings occurrences with
  | nil => simpa using settled
  | cons setting rest inductionHypothesis =>
    have next := inductionHypothesis (settled.apply setting)
    rwa [List.append_assoc, List.singleton_append] at next

theorem Settings.settles_ofList (occurrences : List Setting) :
    (Settings.ofList occurrences).Settles occurrences := by
  have unsettled : ({} : Settings).Settles [] :=
    ⟨fun which => by cases which <;> rfl, rfl, fun which _ => by cases which <;> first | rfl⟩
  exact unsettled.foldl_apply occurrences

/-- A list of occurrences settles one thing only. -/
theorem Settings.settles_iff {settings : Settings} {occurrences : List Setting} :
    settings.Settles occurrences ↔ settings = Settings.ofList occurrences := by
  constructor
  · intro settled
    have expected := Settings.settles_ofList occurrences
    refine Settings.eq_of_flags (fun which => ?_) fun which => ?_
    · rw [settled.position, expected.position]
    · by_cases output : which = .output
      · subst output
        exact congrArg Option.toList (settled.output.trans expected.output.symm)
      · rw [settled.gathered which output, expected.gathered which output]
  · rintro rfl
    exact Settings.settles_ofList occurrences

end ThriftCommand
