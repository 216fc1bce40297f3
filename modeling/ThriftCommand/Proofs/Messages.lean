/-
This file proves which characters a message to the user can hold. Quoted text shows every character
that it quotes and holds no control character itself, so a message about a specification is plain
text whatever the user wrote. A message about a flag repeats user text without quotes; it is cut at
its first line feed. Either way a message is one line, and no blank at its end is left to trim.
-/

import Mathlib.Data.List.Chain
import ThriftCommand.Backend.Warning
import ThriftCommand.Text.ControlSequence
import ThriftCommand.UsageError

namespace ThriftCommand

namespace Text

/-! ### Visible text -/

/-- No character of the text is a control character. -/
def Visible (text : String) : Prop :=
  ∀ c ∈ text.toList, isControl c = false

instance (text : String) : Decidable (Visible text) :=
  List.decidableBAll (fun c => isControl c = false) text.toList

theorem visible_append {first second : String} :
    Visible (first ++ second) ↔ Visible first ∧ Visible second := by
  simp [Visible, or_imp, forall_and]

theorem Visible.of_subset {text part : String} (visible : Visible text)
    (within : part.toList ⊆ text.toList) : Visible part :=
  fun c member => visible c (within member)

theorem Visible.control_notMem {text : String} (visible : Visible text) {c : Char}
    (control : isControl c = true) : c ∉ text.toList :=
  fun member => Bool.false_ne_true ((visible c member).symm.trans control)

/-- Visible text is one line. -/
theorem Visible.newline_notMem {text : String} (visible : Visible text) : '\n' ∉ text.toList :=
  visible.control_notMem (by decide)

theorem head?_append {front : String} {c : Char} (opens : front.toList.head? = some c)
    (back : String) : (front ++ back).toList.head? = some c := by
  rw [String.toList_append, List.head?_append, opens]
  rfl

/-! ### Invisible characters -/

/-- The runs of the table begin in ascending order. -/
theorem invisibleRanges_ascending : (invisibleRanges.map Prod.fst).Pairwise (· < ·) := by
  have neighbours : (invisibleRanges.map Prod.fst).IsChain (· < ·) := by decide +kernel
  exact List.isChain_iff_pairwise.mp neighbours

/-- Among runs in ascending order the search finds a number exactly when it lies in one of them: it
stops at the first run above the number, and the runs behind that one are above it as well. -/
theorem liesIn_iff {code : Nat} {ranges : List (Nat × Nat)}
    (ascending : (ranges.map Prod.fst).Pairwise (· < ·)) :
    liesIn code ranges = true ↔ ∃ range ∈ ranges, range.1 ≤ code ∧ code ≤ range.2 := by
  induction ranges with
  | nil => simp [liesIn]
  | cons range rest inductionHypothesis =>
    obtain ⟨below, later⟩ := List.pairwise_cons.mp ascending
    have begun : (∃ other ∈ rest, other.1 ≤ code ∧ code ≤ other.2) → range.1 ≤ code := by
      rintro ⟨other, member, first, -⟩
      exact (Nat.le_of_lt (below _ (List.mem_map_of_mem member))).trans first
    rw [List.exists_mem_cons_iff, liesIn, Bool.and_eq_true, Bool.or_eq_true, decide_eq_true_iff,
      decide_eq_true_iff, inductionHypothesis later, and_or_left, and_iff_right_of_imp begun]

theorem isInvisible_iff {c : Char} :
    isInvisible c = true ↔
      ∃ range ∈ invisibleRanges, range.1 ≤ c.toNat ∧ c.toNat ≤ range.2 :=
  liesIn_iff invisibleRanges_ascending

/-- The control characters are the first run of the table and the beginning of the second. -/
theorem isInvisible_of_isControl {c : Char} (control : isControl c = true) :
    isInvisible c = true := by
  simp only [isControl, Bool.or_eq_true, decide_eq_true_eq] at control
  rw [isInvisible_iff]
  rcases control with low | delete
  · exact ⟨(0x0, 0x1F), List.mem_cons_self, Nat.zero_le _, Nat.le_of_lt_succ low⟩
  · exact ⟨(0x7F, 0xA0), List.mem_cons_of_mem _ List.mem_cons_self, by omega, by omega⟩

/-! ### Quoted text -/

theorem isControl_digitChar : ∀ digit < 16, isControl (Nat.digitChar digit) = false := by
  decide

theorem isBlank_digitChar : ∀ digit < 16, isBlank (Nat.digitChar digit) = false := by
  decide

theorem exists_digit_of_mem_toDigits {base : Nat} (large : 1 < base) {number : Nat} {c : Char}
    (member : c ∈ base.toDigits number) : ∃ digit < base, c = Nat.digitChar digit := by
  induction number using Nat.strongRecOn with
  | _ number inductionHypothesis =>
  rw [Nat.toDigits_eq_if large] at member
  split at member
  · rename_i oneDigit
    exact ⟨number, oneDigit, List.mem_singleton.mp member⟩
  · rename_i moreDigits
    have positive : 0 < number := by omega
    rcases List.mem_append.mp member with front | last
    · exact inductionHypothesis _ (Nat.div_lt_self positive large) front
    · exact ⟨_, Nat.mod_lt _ (by omega), List.mem_singleton.mp last⟩

theorem isControl_of_mem_numbered {c shown : Char} (member : shown ∈ numbered c) :
    isControl shown = false := by
  simp only [numbered, List.mem_append, List.mem_cons, List.not_mem_nil, or_false] at member
  rcases member with ((rfl | rfl | rfl) | digit) | rfl
  · decide
  · decide
  · decide
  · obtain ⟨value, small, rfl⟩ := exists_digit_of_mem_toDigits (by decide) digit
    exact isControl_digitChar value small
  · decide

/-- No control character stands in quoted text, whatever it quotes. -/
theorem isControl_of_mem_escaped {c shown : Char} (member : shown ∈ escaped c) :
    isControl shown = false := by
  unfold escaped at member
  split at member
  case h_7 =>
    split at member
    · exact isControl_of_mem_numbered member
    · rename_i visible
      rw [List.mem_singleton.mp member, ← Bool.not_eq_true]
      exact mt isInvisible_of_isControl visible
  all_goals
    simp only [List.mem_cons, List.not_mem_nil, or_false] at member
    rcases member with rfl | rfl <;> decide

theorem visible_quoted (text : String) : Visible (quoted text) := by
  intro c member
  simp only [quoted, String.toList_ofList, List.mem_append, List.mem_cons, List.mem_flatMap,
    List.not_mem_nil, or_false] at member
  rcases member with (rfl | ⟨original, -, shown⟩) | rfl
  · decide
  · exact isControl_of_mem_escaped shown
  · decide

theorem Visible.quoting {front back : String} (visibleFront : Visible front)
    (visibleBack : Visible back) (text : String) : Visible (front ++ quoted text ++ back) :=
  visible_append.mpr ⟨visible_append.mpr ⟨visibleFront, visible_quoted text⟩, visibleBack⟩

/-! ### Blanks at the end -/

/-- Text stays as it is where its end does. -/
theorem trimEnd_append (front : String) {back : String}
    (trimmed : trimEnd back.toList = back.toList) (something : back ≠ "") :
    trimEnd (front ++ back).toList = (front ++ back).toList := by
  have chars : back.toList ≠ [] := fun empty => something (String.toList_eq_nil_iff.mp empty)
  rw [String.toList_append]
  induction front.toList with
  | nil => exact trimmed
  | cons c rest inductionHypothesis =>
    rw [List.cons_append, trimEnd, inductionHypothesis]
    split
    · rename_i empty
      exact absurd (List.append_eq_nil_iff.mp empty).2 chars
    · rfl

theorem trimEnd_of_visible {text : List Char} (visible : ∀ c ∈ text, isBlank c = false) :
    trimEnd text = text := by
  induction text with
  | nil => rfl
  | cons c rest inductionHypothesis =>
    rw [trimEnd, inductionHypothesis fun other member =>
      visible other (List.mem_cons_of_mem c member)]
    cases rest with
    | nil => simp [visible c List.mem_cons_self]
    | cons second others => rfl

theorem trimEnd_cons_ne_nil {c : Char} (visible : isBlank c = false) (rest : List Char) :
    trimEnd (c :: rest) ≠ [] := by
  rw [trimEnd]
  split
  · simp [visible]
  · exact List.cons_ne_nil _ _

theorem trimEnd_of_blank {text : List Char} (blank : ∀ c ∈ text, isBlank c = true) :
    trimEnd text = [] := by
  induction text with
  | nil => rfl
  | cons c rest inductionHypothesis =>
    rw [trimEnd, inductionHypothesis fun other member =>
      blank other (List.mem_cons_of_mem c member)]
    exact if_pos (blank c List.mem_cons_self)

/-- Blanks behind text are trimmed with those at its end. -/
theorem trimEnd_append_blanks (text : List Char) {blanks : List Char}
    (blank : ∀ c ∈ blanks, isBlank c = true) : trimEnd (text ++ blanks) = trimEnd text := by
  induction text with
  | nil => exact trimEnd_of_blank blank
  | cons c rest inductionHypothesis => rw [List.cons_append, trimEnd, inductionHypothesis, trimEnd]

/-- What is trimmed stays as it is. -/
theorem trimEnd_trimEnd (text : List Char) : trimEnd (trimEnd text) = trimEnd text := by
  induction text with
  | nil => rfl
  | cons c rest inductionHypothesis =>
    rw [trimEnd]
    split
    · split
      · rfl
      · rename_i visible
        simp [trimEnd, visible]
    · rename_i something
      rw [trimEnd, inductionHypothesis]
      split
      · rename_i empty
        exact absurd empty something
      · rfl

end Text

/-! ### Messages -/

/-- A message about a specification is plain text, whatever the specification is. -/
theorem SpecError.visible_message (error : SpecError) : Text.Visible error.message := by
  have opening : Text.Visible "invalid compact specification " := by decide +kernel
  have badValue : Text.Visible "invalid value " := by decide +kernel
  cases error with
  | missingName spec => exact opening.quoting (by decide +kernel) spec
  | emptyKey spec => exact opening.quoting (by decide +kernel) spec
  | duplicateKey spec key =>
    exact (opening.quoting (by decide +kernel) spec).quoting (by decide +kernel) key
  | notBoolean key value =>
    exact (badValue.quoting (by decide +kernel) value).quoting (by decide +kernel) key

/-- A message about a specification ends in a word. -/
theorem SpecError.trimEnd_message (error : SpecError) :
    Text.trimEnd error.message.toList = error.message.toList := by
  have repeated : Text.trimEnd " given more than once".toList = " given more than once".toList := by
    decide +kernel
  have expected : Text.trimEnd ": expected true, false or empty".toList =
      ": expected true, false or empty".toList := by decide +kernel
  cases error with
  | missingName spec => exact Text.trimEnd_append _ (by decide +kernel) (by decide)
  | emptyKey spec => exact Text.trimEnd_append _ (by decide +kernel) (by decide)
  | duplicateKey spec key => exact Text.trimEnd_append _ repeated (by decide)
  | notBoolean key value => exact Text.trimEnd_append _ expected (by decide)

/-- Only the name of a backend can bring a control character into a warning. -/
theorem Warning.exists_backend_of_control {warning : Warning} {c : Char}
    (control : Text.isControl c = true) (member : c ∈ warning.message.toList) :
    ∃ key backend, warning = .unknownOption key backend ∧ c ∈ backend.toList := by
  cases warning with
  | unknownLanguage language =>
    have visible : Text.Visible ("No backend registered for language " ++ Text.quoted language) :=
      Text.visible_append.mpr ⟨by decide +kernel, Text.visible_quoted language⟩
    exact absurd member (visible.control_notMem control)
  | unknownOption key backend =>
    have front : Text.Visible "Option " := by decide +kernel
    have back : Text.Visible " is not recognized by backend " := by decide +kernel
    have within := (front.quoting back key).control_notMem control
    change c ∈ ("Option " ++ Text.quoted key ++ " is not recognized by backend " ++ backend).toList
      at member
    rw [String.toList_append, List.mem_append] at member
    exact ⟨key, backend, rfl, member.resolve_left within⟩
  | badValue error => exact absurd member (error.visible_message.control_notMem control)

/-- A message about a flag ends at its first line feed. -/
theorem FlagError.newline_notMem_message (error : FlagError) : '\n' ∉ error.message.toList := by
  rw [message, String.toList_ofList]
  exact fun member =>
    Text.separator_notMem_splitFirst '\n' error.complaint.toList (Text.mem_of_mem_trimEnd member)

/-- A complaint about a flag begins with a word. -/
theorem FlagError.head?_complaint (error : FlagError) :
    error.complaint.toList.head? = some 'e' := by
  cases error with
  | unknown flag =>
    exact Text.head?_append (Text.head?_append (by decide +kernel) _) _
  | missingValue parameter =>
    exact Text.head?_append (Text.head?_append (by decide +kernel) _) _
  | notBoolean switch word =>
    exact Text.head?_append (Text.head?_append (Text.head?_append (Text.head?_append
      (Text.head?_append (by decide +kernel) _) _) _) _) _
  | undecodable => decide +kernel

/-- A message about a flag holds that word at least. -/
theorem FlagError.message_ne_empty (error : FlagError) : error.message ≠ "" := by
  obtain ⟨rest, chars⟩ := List.head?_eq_some_iff.mp error.head?_complaint
  rw [message, chars, Ne, String.ofList_eq_empty_iff]
  exact Text.trimEnd_cons_ne_nil (by decide) _

/-- A message about a specification begins with a word. -/
theorem SpecError.head?_message (error : SpecError) : error.message.toList.head? = some 'i' := by
  cases error with
  | missingName spec | emptyKey spec =>
    exact Text.head?_append (Text.head?_append (by decide +kernel) _) _
  | duplicateKey spec key | notBoolean key value =>
    exact Text.head?_append (Text.head?_append (Text.head?_append (Text.head?_append
      (by decide +kernel) _) _) _) _

namespace UsageError

/-- Whatever is wrong, the message says something. -/
theorem message_ne_empty (error : UsageError) : error.message ≠ "" := by
  cases error with
  | flags error => exact error.message_ne_empty
  | argumentCount count =>
    intro empty
    have opens : (message (.argumentCount count)).toList.head? = some 'r' :=
      Text.head?_append (by decide +kernel) _
    rw [empty] at opens
    cases opens
  | emptyIdl => decide
  | spec error =>
    intro empty
    have opens := error.head?_message
    rw [show error.message = "" from empty] at opens
    cases opens

/-- Whatever is wrong, the message is one line. -/
theorem newline_notMem_message (error : UsageError) : '\n' ∉ error.message.toList := by
  cases error with
  | flags error => exact error.newline_notMem_message
  | argumentCount count =>
    have digits : Text.Visible count.repr := by
      intro c member
      rw [Nat.repr_eq_ofList_toDigits, String.toList_ofList] at member
      obtain ⟨digit, small, rfl⟩ := Text.exists_digit_of_mem_toDigits (by decide) member
      exact Text.isControl_digitChar digit (by omega)
    have sentence : Text.Visible (message (.argumentCount count)) :=
      Text.visible_append.mpr ⟨by decide +kernel, digits⟩
    exact sentence.newline_notMem
  | emptyIdl => decide +kernel
  | spec error => exact error.visible_message.newline_notMem

/-- There is nothing to trim from a message. -/
theorem trimEnd_message (error : UsageError) :
    Text.trimEnd error.message.toList = error.message.toList := by
  cases error with
  | flags error =>
    change Text.trimEnd error.message.toList = error.message.toList
    rw [FlagError.message, String.toList_ofList, Text.trimEnd_trimEnd]
  | argumentCount count =>
    have digits : Text.trimEnd count.repr.toList = count.repr.toList := by
      rw [Nat.repr_eq_ofList_toDigits, String.toList_ofList]
      refine Text.trimEnd_of_visible fun c member => ?_
      obtain ⟨digit, small, rfl⟩ := Text.exists_digit_of_mem_toDigits (by decide) member
      exact Text.isBlank_digitChar digit (by omega)
    have something : count.repr ≠ "" := by
      rw [Nat.repr_eq_ofList_toDigits, Ne, String.ofList_eq_empty_iff]
      exact Nat.toDigits_ne_nil
    exact Text.trimEnd_append _ digits something
  | emptyIdl => decide +kernel
  | spec error => exact error.trimEnd_message

end UsageError

end ThriftCommand
