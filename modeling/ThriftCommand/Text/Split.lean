/-
This file cuts text at a separator's first occurrence. A specification splits its name from its
options this way, an option splits its key from its value, and a long flag splits its name from
the value written after the equals sign. What stands after the cut is optional: no separator is
not the same as nothing after the separator.
-/

namespace ThriftCommand.Text

/-- The items before the first `separator`, and the items after it if there is one. -/
def splitFirst {α : Type} [DecidableEq α] (separator : α) : List α → List α × Option (List α)
  | [] => ([], none)
  | item :: rest =>
    if item = separator then ([], some rest)
    else
      let (before, after) := splitFirst separator rest
      (item :: before, after)

/-- The text before the first line feed, or all of it. -/
def firstLine (text : List Char) : List Char :=
  (splitFirst '\n' text).1

/-! ### What a cut keeps -/

variable {α : Type} [DecidableEq α] (separator : α)

/-- What stands before the cut does not hold the separator. -/
theorem separator_notMem_splitFirst (items : List α) :
    separator ∉ (splitFirst separator items).1 := by
  induction items with
  | nil => simp [splitFirst]
  | cons item rest inductionHypothesis =>
    by_cases equal : item = separator
    · simp [splitFirst, equal]
    · simp only [splitFirst, if_neg equal, List.mem_cons, not_or]
      exact ⟨fun same => equal same.symm, inductionHypothesis⟩

/-- Where nothing is cut off, nothing is missing. -/
theorem eq_of_splitFirst_none {items before : List α}
    (cut : splitFirst separator items = (before, none)) : items = before := by
  induction items generalizing before with
  | nil => exact congrArg Prod.fst cut
  | cons item rest inductionHypothesis =>
    by_cases equal : item = separator
    · simp [splitFirst, equal] at cut
    · simp only [splitFirst, if_neg equal, Prod.mk.injEq] at cut
      obtain ⟨rfl, uncut⟩ := cut
      exact congrArg (item :: ·) (inductionHypothesis (Prod.ext rfl uncut))

/-- The separator is all that a cut takes away. -/
theorem eq_of_splitFirst_some {items before after : List α}
    (cut : splitFirst separator items = (before, some after)) :
    items = before ++ separator :: after := by
  induction items generalizing before with
  | nil => simp [splitFirst] at cut
  | cons item rest inductionHypothesis =>
    by_cases equal : item = separator
    · simp only [splitFirst, if_pos equal, Prod.mk.injEq, Option.some.injEq] at cut
      rw [← cut.1, ← cut.2, equal, List.nil_append]
    · simp only [splitFirst, if_neg equal, Prod.mk.injEq] at cut
      obtain ⟨rfl, rest⟩ := cut
      exact congrArg (item :: ·) (inductionHypothesis (Prod.ext rfl rest))

/-- Without the separator the cut is after the last item. -/
theorem splitFirst_of_notMem {items : List α} (absent : separator ∉ items) :
    splitFirst separator items = (items, none) := by
  induction items with
  | nil => rfl
  | cons item rest inductionHypothesis =>
    simp only [List.mem_cons, not_or] at absent
    simp [splitFirst, inductionHypothesis absent.2, Ne.symm absent.1]

/-- Text without the separator, then the separator, is cut there whatever follows. -/
theorem splitFirst_append {before : List α} (absent : separator ∉ before) (after : List α) :
    splitFirst separator (before ++ separator :: after) = (before, some after) := by
  induction before with
  | nil => simp [splitFirst]
  | cons item rest inductionHypothesis =>
    simp only [List.mem_cons, not_or] at absent
    simp [splitFirst, inductionHypothesis absent.2, Ne.symm absent.1]

/-- What does not hold the separator stands before the cut, whatever follows. -/
theorem fst_splitFirst_append {front : List α} (absent : separator ∉ front) (rest : List α) :
    (splitFirst separator (front ++ rest)).1 = front ++ (splitFirst separator rest).1 := by
  induction front with
  | nil => rfl
  | cons item others inductionHypothesis =>
    simp only [List.mem_cons, not_or] at absent
    simp [splitFirst, inductionHypothesis absent.2, Ne.symm absent.1]

/-! ### Cuts by their pieces -/

/-- Nothing is cut off exactly where the separator is missing. -/
theorem splitFirst_eq_none_iff {items before : List α} :
    splitFirst separator items = (before, none) ↔ items = before ∧ separator ∉ before := by
  constructor
  · intro cut
    have absent := separator_notMem_splitFirst separator items
    rw [cut] at absent
    exact ⟨eq_of_splitFirst_none separator cut, absent⟩
  · rintro ⟨rfl, absent⟩
    exact splitFirst_of_notMem separator absent

/-- The cut is the one place with the separator behind it and not before it. -/
theorem splitFirst_eq_some_iff {items before after : List α} :
    splitFirst separator items = (before, some after) ↔
      items = before ++ separator :: after ∧ separator ∉ before := by
  constructor
  · intro cut
    have absent := separator_notMem_splitFirst separator items
    rw [cut] at absent
    exact ⟨eq_of_splitFirst_some separator cut, absent⟩
  · rintro ⟨rfl, absent⟩
    exact splitFirst_append separator absent after

/-- A string without the separator, then the separator, is cut there whatever follows. -/
theorem splitFirst_toList {separator : Char} {mark before : String}
    (marks : mark.toList = [separator]) (absent : separator ∉ before.toList) (after : String) :
    splitFirst separator (before ++ mark ++ after).toList = (before.toList, some after.toList) := by
  have chars : (before ++ mark ++ after).toList = before.toList ++ separator :: after.toList := by
    simp [marks]
  rw [chars, splitFirst_append _ absent]

/-- A string does without the separator, or it has a first one. -/
theorem exists_cut {separator : Char} {mark : String} (marks : mark.toList = [separator])
    (text : String) :
    separator ∉ text.toList ∨
      ∃ before after : String, text = before ++ mark ++ after ∧ separator ∉ before.toList := by
  cases cut : splitFirst separator text.toList with
  | mk before after =>
    cases after with
    | none =>
      obtain ⟨chars, absent⟩ := (splitFirst_eq_none_iff separator).mp cut
      exact Or.inl (chars ▸ absent)
    | some after =>
      obtain ⟨chars, absent⟩ := (splitFirst_eq_some_iff separator).mp cut
      refine Or.inr ⟨String.ofList before, String.ofList after, ?_, by rwa [String.toList_ofList]⟩
      rw [← String.toList_inj, chars]
      simp [marks]

/-- Cut at every separator, no piece holds one. -/
theorem separator_notMem_of_mem_splitOn {items piece : List α}
    (member : piece ∈ items.splitOn separator) : separator ∉ piece := by
  induction items generalizing piece with
  | nil =>
    rw [List.splitOn_nil, List.mem_singleton] at member
    simp [member]
  | cons item rest inductionHypothesis =>
    rw [List.splitOn_cons_eq_if_modifyHead] at member
    split at member
    · rcases List.mem_cons.mp member with rfl | later
      · exact List.not_mem_nil
      · exact inductionHypothesis later
    · rename_i different
      obtain ⟨first, others, pieces⟩ :=
        List.exists_cons_of_ne_nil (List.splitOn_ne_nil separator rest)
      rw [pieces, List.modifyHead_cons] at member
      rw [pieces] at inductionHypothesis
      rcases List.mem_cons.mp member with rfl | later
      · have absent := inductionHypothesis List.mem_cons_self
        simp only [beq_iff_eq] at different
        simp [absent, Ne.symm different]
      · exact inductionHypothesis (List.mem_cons_of_mem _ later)

end ThriftCommand.Text
