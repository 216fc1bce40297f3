/-
This file says which warnings the targets of a run give rise to, text by text, and proves that the
check gives exactly these, in the order of the targets and of their options. Languages and option
names may repeat in a catalogue of backends; the first entry of a name counts.

The check looks the value of a boolean option up again by its key, and so finds the first option
with this key. The content here is that a target which was read has one option for each key, so
every option is judged by its own value.
-/

import ThriftCommand.Backend.Warning
import ThriftCommand.Proofs.Rendering

namespace ThriftCommand

/-! ### First entries -/

/-- The item is the first of the list that has the property. -/
def FirstWith {α : Type} (holds : α → Prop) (items : List α) (item : α) : Prop :=
  ∃ before after, items = before ++ item :: after ∧ holds item ∧ ∀ other ∈ before, ¬ holds other

theorem find?_eq_some_iff_firstWith {α : Type} {holds : α → Prop} [DecidablePred holds]
    {items : List α} {item : α} :
    items.find? (fun other => holds other) = some item ↔ FirstWith holds items item := by
  rw [List.find?_eq_some_iff_append]
  constructor
  · rintro ⟨found, before, after, split, earlier⟩
    exact ⟨before, after, split, by simpa using found, by simpa using earlier⟩
  · rintro ⟨before, after, split, found, earlier⟩
    exact ⟨by simpa using found, before, after, split, by simpa using earlier⟩

theorem Backend.find?_eq_some_iff {backends : List Backend} {language : String}
    {backend : Backend} :
    find? backends language = some backend ↔
      FirstWith (fun other => other.language = language) backends backend :=
  find?_eq_some_iff_firstWith

theorem Backend.find?_eq_none_iff {backends : List Backend} {language : String} :
    find? backends language = none ↔ ∀ backend ∈ backends, backend.language ≠ language := by
  simp [find?]

theorem Backend.doc?_eq_some_iff {backend : Backend} {key : String} {doc : OptionDoc} :
    backend.doc? key = some doc ↔ FirstWith (fun other => other.name = key) backend.options doc :=
  find?_eq_some_iff_firstWith

theorem Backend.doc?_eq_none_iff {backend : Backend} {key : String} :
    backend.doc? key = none ↔ ∀ doc ∈ backend.options, doc.name ≠ key := by
  simp [doc?]

/-! ### Options with keys of their own -/

/-- Where no two options share a key, each option is the first with its own. -/
theorem SpecOption.firstWith_key {options : List SpecOption} (keyed : Keyed options)
    {option : SpecOption} (member : option ∈ options) :
    FirstWith (fun other => other.key = option.key) options option := by
  obtain ⟨before, after, rfl⟩ := List.append_of_mem member
  refine ⟨before, after, rfl, rfl, fun other earlier same => ?_⟩
  have distinct := keyed.distinct
  rw [List.map_append, List.nodup_append] at distinct
  exact distinct.2.2 other.key (List.mem_map_of_mem earlier) option.key
    (List.mem_map_of_mem List.mem_cons_self) same

/-- What the options say about the key of one of them is what that one says. -/
theorem SpecOption.given_of_mem {options : List SpecOption} (keyed : Keyed options)
    {option : SpecOption} (member : option ∈ options) :
    given options option.key = option.value.elim .bare .valued := by
  have found := find?_eq_some_iff_firstWith.mpr (firstWith_key keyed member)
  obtain ⟨key, value⟩ := option
  rw [given, found]
  cases value with
  | none => rfl
  | some text => rfl

theorem SpecOption.isOn_of_bare {options : List SpecOption} (keyed : Keyed options)
    {option : SpecOption} (member : option ∈ options) (bare : option.value = none) :
    isOn options option.key = .ok true := by
  rw [isOn, given_of_mem keyed member, bare]
  rfl

theorem SpecOption.isOn_of_valued {options : List SpecOption} (keyed : Keyed options)
    {option : SpecOption} (member : option ∈ options) {text : String}
    (valued : option.value = some text) :
    isOn options option.key =
      if text = "" ∨ text = "true" then .ok true
      else if text = "false" then .ok false
      else .error (.notBoolean option.key text) := by
  rw [isOn, given_of_mem keyed member, valued]
  rfl

namespace Warning

/-! ### The warnings about one option -/

/-- The texts about one option of a target whose language the backend generates. -/
inductive AboutOption (backend : Backend) (option : SpecOption) : List String → Prop
  | undocumented (unknown : ∀ doc ∈ backend.options, doc.name ≠ option.key) :
    AboutOption backend option
      ["Option " ++ Text.quoted option.key ++ " is not recognized by backend " ++ backend.name]
  | anyValue {doc : OptionDoc}
      (documented : FirstWith (fun other => other.name = option.key) backend.options doc)
      (free : doc.boolean = false) :
    AboutOption backend option []
  | bare {doc : OptionDoc}
      (documented : FirstWith (fun other => other.name = option.key) backend.options doc)
      (boolean : doc.boolean = true) (valueless : option.value = none) :
    AboutOption backend option []
  | position {doc : OptionDoc}
      (documented : FirstWith (fun other => other.name = option.key) backend.options doc)
      (boolean : doc.boolean = true) {text : String} (valued : option.value = some text)
      (known : text = "" ∨ text = "true" ∨ text = "false") :
    AboutOption backend option []
  | noPosition {doc : OptionDoc}
      (documented : FirstWith (fun other => other.name = option.key) backend.options doc)
      (boolean : doc.boolean = true) {text : String} (valued : option.value = some text)
      (unknown : ¬(text = "" ∨ text = "true" ∨ text = "false")) :
    AboutOption backend option [(SpecError.notBoolean option.key text).message]

/-- Whatever an option is, there is something to say about it, if only nothing. -/
theorem exists_aboutOption (backend : Backend) (option : SpecOption) :
    ∃ texts, AboutOption backend option texts := by
  cases found : backend.doc? option.key with
  | none => exact ⟨_, .undocumented (Backend.doc?_eq_none_iff.mp found)⟩
  | some doc =>
    have documented := Backend.doc?_eq_some_iff.mp found
    cases boolean : doc.boolean with
    | false => exact ⟨_, .anyValue documented boolean⟩
    | true =>
      cases value : option.value with
      | none => exact ⟨_, .bare documented boolean value⟩
      | some text =>
        by_cases known : text = "" ∨ text = "true" ∨ text = "false"
        · exact ⟨_, .position documented boolean value known⟩
        · exact ⟨_, .noPosition documented boolean value known⟩

theorem ofOption?_of_free {backend : Backend} {option : SpecOption} {doc : OptionDoc}
    (documented : FirstWith (fun other => other.name = option.key) backend.options doc)
    (free : doc.boolean = false) (target : Target) : ofOption? backend target option = none := by
  rw [ofOption?, Backend.doc?_eq_some_iff.mpr documented]
  simp [free]

theorem ofOption?_of_boolean {backend : Backend} {option : SpecOption} {doc : OptionDoc}
    (documented : FirstWith (fun other => other.name = option.key) backend.options doc)
    (boolean : doc.boolean = true) (target : Target) :
    ofOption? backend target option =
      match SpecOption.isOn target.options option.key with
      | .error error => some (.badValue error)
      | .ok _ => none := by
  rw [ofOption?, Backend.doc?_eq_some_iff.mpr documented]
  simp only [boolean, if_true]
  rfl

/-- What there is to say about an option of a target is what its check says. -/
theorem AboutOption.eq_of_mem {backend : Backend} {option : SpecOption} {texts : List String}
    (about : AboutOption backend option texts) {target : Target}
    (keyed : SpecOption.Keyed target.options) (member : option ∈ target.options) :
    texts = (ofOption? backend target option).toList.map message := by
  cases about with
  | undocumented unknown =>
    rw [ofOption?, Backend.doc?_eq_none_iff.mpr unknown]
    rfl
  | anyValue documented free =>
    rw [ofOption?_of_free documented free]
    rfl
  | bare documented boolean valueless =>
    rw [ofOption?_of_boolean documented boolean, SpecOption.isOn_of_bare keyed member valueless]
    rfl
  | position documented boolean valued known =>
    rw [ofOption?_of_boolean documented boolean, SpecOption.isOn_of_valued keyed member valued]
    rcases known with rfl | rfl | rfl <;> rfl
  | noPosition documented boolean valued unknown =>
    simp only [not_or] at unknown
    obtain ⟨nonempty, notTrue, notFalse⟩ := unknown
    rw [ofOption?_of_boolean documented boolean, SpecOption.isOn_of_valued keyed member valued,
      if_neg (not_or.mpr ⟨nonempty, notTrue⟩), if_neg notFalse]
    rfl

theorem aboutOption_iff {backend : Backend} {target : Target}
    (keyed : SpecOption.Keyed target.options) {option : SpecOption}
    (member : option ∈ target.options) {texts : List String} :
    AboutOption backend option texts ↔
      texts = (ofOption? backend target option).toList.map message := by
  constructor
  · exact fun about => about.eq_of_mem keyed member
  · rintro rfl
    obtain ⟨texts, about⟩ := exists_aboutOption backend option
    exact about.eq_of_mem keyed member ▸ about

/-! ### The warnings about targets -/

/-- The texts about one target: one about its language, or those about its options, in order. -/
inductive AboutTarget (backends : List Backend) (target : Target) : List String → Prop
  | noBackend (unknown : ∀ backend ∈ backends, backend.language ≠ target.language) :
    AboutTarget backends target
      ["No backend registered for language " ++ Text.quoted target.language]
  | options {backend : Backend}
      (first : FirstWith (fun other => other.language = target.language) backends backend)
      {texts : List (List String)}
      (each : List.Forall₂ (AboutOption backend) target.options texts) :
    AboutTarget backends target texts.flatten

/-- A relation that decides one result for each item relates a list to those results. -/
theorem forall₂_iff_eq_map {Item Result : Type} {related : Item → Result → Prop}
    {result : Item → Result} {items : List Item}
    (decides : ∀ item ∈ items, ∀ other, related item other ↔ other = result item)
    {results : List Result} :
    List.Forall₂ related items results ↔ results = items.map result := by
  induction items generalizing results with
  | nil => simp
  | cons item rest inductionHypothesis =>
    have later := fun other member => decides other (List.mem_cons_of_mem item member)
    cases results with
    | nil => simp
    | cons first others =>
      rw [List.forall₂_cons, decides item List.mem_cons_self, inductionHypothesis later,
        List.map_cons, List.cons.injEq]

theorem map_message_filterMap (backend : Backend) (target : Target) :
    (target.options.filterMap (ofOption? backend target)).map message =
      (target.options.map fun option =>
        (ofOption? backend target option).toList.map message).flatten := by
  rw [List.filterMap_eq_flatMap_toList, List.map_flatMap, List.flatMap_def]

/-- What there is to say about a target that was read is what its check says. -/
theorem aboutTarget_iff {backends : List Backend} {target : Target}
    (keyed : SpecOption.Keyed target.options) {texts : List String} :
    AboutTarget backends target texts ↔ texts = (ofTarget backends target).map message := by
  have options (backend : Backend) {parts : List (List String)} :
      List.Forall₂ (AboutOption backend) target.options parts ↔
        parts = target.options.map fun option =>
          (ofOption? backend target option).toList.map message :=
    forall₂_iff_eq_map fun option member _ => aboutOption_iff keyed member
  unfold ofTarget
  constructor
  · intro about
    cases about with
    | noBackend unknown =>
      rw [Backend.find?_eq_none_iff.mpr unknown]
      rfl
    | @options backend first parts each =>
      rw [Backend.find?_eq_some_iff.mpr first, (options backend).mp each]
      exact (map_message_filterMap backend target).symm
  · rintro rfl
    cases found : Backend.find? backends target.language with
    | none => exact .noBackend (Backend.find?_eq_none_iff.mp found)
    | some backend =>
      simp only [map_message_filterMap]
      exact .options (Backend.find?_eq_some_iff.mp found) ((options backend).mpr rfl)

/-- A target that was read has one option for each key. -/
theorem keyed_of_parse {text : String} {target : Target} (read : Target.parse text = .ok target) :
    SpecOption.Keyed target.options := by
  obtain ⟨spec, written, rfl⟩ := Target.parse_eq_ok_iff.mp read
  exact (CompactSpec.wellFormed_of_parse written).keyed

/-- The check of targets that were read gives one warning for a language without a backend, and
otherwise judges each option by its own value and by what the first backend of the language
documents first about its key. The warnings stand in the order of the targets and of their
options. -/
theorem ofTargets_decides (backends : List Backend) (targets : List Target)
    (read : ∀ target ∈ targets, ∃ text, Target.parse text = .ok target) (warnings : List String) :
    (ofTargets backends targets).map message = warnings ↔
      ∃ texts, List.Forall₂ (AboutTarget backends) targets texts ∧ warnings = texts.flatten := by
  have each {texts : List (List String)} :
      List.Forall₂ (AboutTarget backends) targets texts ↔
        texts = targets.map fun target => (ofTarget backends target).map message := by
    refine forall₂_iff_eq_map fun target member _ => ?_
    obtain ⟨text, parsed⟩ := read target member
    exact aboutTarget_iff (keyed_of_parse parsed)
  have whole : (ofTargets backends targets).map message =
      (targets.map fun target => (ofTarget backends target).map message).flatten := by
    rw [ofTargets, List.map_flatMap, List.flatMap_def]
  rw [whole]
  constructor
  · rintro rfl
    exact ⟨_, each.mpr rfl, rfl⟩
  · rintro ⟨texts, about, rfl⟩
    rw [each.mp about]

/-- Two backends generate the language here, and the first one documents an option twice. Only the
first of each counts, and of the three values only that of the boolean option is looked at. -/
theorem ofTargets_decides_repeated :
    (∀ target ∈ [⟨"go", [⟨"safe", some "maybe"⟩, ⟨"style", some "maybe"⟩, ⟨"fast", none⟩]⟩,
        ⟨"cobol", []⟩], ∃ text, Target.parse text = .ok target) ∧
      ∃ texts, List.Forall₂
        (AboutTarget
          [⟨"first", "go", [⟨"safe", "", true⟩, ⟨"safe", "", false⟩, ⟨"style", "", false⟩]⟩,
            ⟨"second", "go", [⟨"fast", "", false⟩]⟩])
        [⟨"go", [⟨"safe", some "maybe"⟩, ⟨"style", some "maybe"⟩, ⟨"fast", none⟩]⟩, ⟨"cobol", []⟩]
        texts ∧
      ["invalid value \"maybe\" for boolean option \"safe\": expected true, false or empty",
        "Option \"fast\" is not recognized by backend first",
        "No backend registered for language \"cobol\""] = texts.flatten := by
  have read : ∀ target ∈ [(⟨"go",
        [⟨"safe", some "maybe"⟩, ⟨"style", some "maybe"⟩, ⟨"fast", none⟩]⟩ : Target),
      ⟨"cobol", []⟩], ∃ text, Target.parse text = .ok target := by
    simp only [List.forall_mem_cons, List.not_mem_nil, false_imp_iff, implies_true, and_true]
    exact ⟨⟨"go:safe=maybe,style=maybe,fast", rfl⟩, ⟨"cobol:", rfl⟩⟩
  exact ⟨read, (ofTargets_decides _ _ read _).mp rfl⟩

end Warning

end ThriftCommand
