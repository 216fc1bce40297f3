/-
This file says what becomes of entries that are resolved one after the other. Either every entry has
a result of its own, and the results stand in the order of the entries, or there are no results at
all but the error of the first entry that has none. What stands behind that entry plays no part.
-/

import Mathlib.Data.List.Forall2

namespace ThriftCommand

section

variable {Entry Result Error : Type} {resolve : Entry → Except Error Result}

/-- The results are those of the entries, one for each and in order. -/
def ResolvedTo (resolve : Entry → Except Error Result) (entries : List Entry)
    (results : List Result) : Prop :=
  List.Forall₂ (fun entry result => resolve entry = .ok result) entries results

/-- Resolving yields results exactly when each entry has its own. -/
theorem mapM_eq_ok_iff {entries : List Entry} {results : List Result} :
    entries.mapM resolve = .ok results ↔ ResolvedTo resolve entries results := by
  unfold ResolvedTo
  induction entries generalizing results with
  | nil =>
    rw [List.mapM_nil, List.forall₂_nil_left_iff]
    exact ⟨fun same => (Except.ok.inj same).symm, fun empty => empty ▸ rfl⟩
  | cons entry rest inductionHypothesis =>
    rw [List.mapM_cons, List.forall₂_cons_left_iff]
    simp only [← inductionHypothesis]
    cases resolve entry with
    | error error => simp [bind, Except.bind]
    | ok result =>
      cases rest.mapM resolve with
      | error error => simp [bind, Except.bind]
      | ok later => simp [bind, Except.bind, pure, Except.pure, eq_comm]

/-- There are results exactly when each entry resolves on its own. -/
theorem exists_resolvedTo_iff {entries : List Entry} :
    (∃ results, ResolvedTo resolve entries results) ↔
      ∀ entry ∈ entries, ∃ result, resolve entry = .ok result := by
  unfold ResolvedTo
  induction entries with
  | nil => simp
  | cons entry rest inductionHypothesis =>
    rw [List.forall_mem_cons, ← inductionHypothesis]
    simp only [List.forall₂_cons_left_iff]
    constructor
    · rintro ⟨_, result, results, here, later, -⟩
      exact ⟨⟨result, here⟩, results, later⟩
    · rintro ⟨⟨result, here⟩, results, later⟩
      exact ⟨_, result, results, here, later, rfl⟩

/-- Resolving stops at the first entry that does not resolve, whatever stands behind it. -/
theorem mapM_of_first_error {before : List Entry} {entry : Entry} {error : Error}
    (earlier : ∀ other ∈ before, ∃ result, resolve other = .ok result)
    (unresolved : resolve entry = .error error) (after : List Entry) :
    (before ++ entry :: after).mapM resolve = .error error := by
  obtain ⟨results, resolved⟩ := exists_resolvedTo_iff.mpr earlier
  rw [List.mapM_append, mapM_eq_ok_iff.mpr resolved, List.mapM_cons, unresolved]
  rfl

/-- An error of resolving is that of the first entry that does not resolve: the entry in front, or
one behind it if that one resolves. -/
theorem mapM_eq_error_iff {entries : List Entry} {error : Error} :
    entries.mapM resolve = .error error ↔
      ∃ before entry after, entries = before ++ entry :: after ∧
        (∀ earlier ∈ before, ∃ result, resolve earlier = .ok result) ∧
        resolve entry = .error error := by
  constructor
  · intro refused
    induction entries with
    | nil => cases refused
    | cons entry rest inductionHypothesis =>
      rw [List.mapM_cons] at refused
      cases here : resolve entry with
      | error own =>
        rw [here] at refused
        cases refused
        exact ⟨[], entry, rest, rfl, by simp, here⟩
      | ok result =>
        cases later : rest.mapM resolve with
        | error own =>
          rw [here, later] at refused
          cases refused
          obtain ⟨before, other, after, rfl, earlier, unresolved⟩ := inductionHypothesis later
          exact ⟨entry :: before, other, after, rfl,
            List.forall_mem_cons.mpr ⟨⟨result, here⟩, earlier⟩, unresolved⟩
        | ok results =>
          rw [here, later] at refused
          cases refused
  · rintro ⟨before, entry, after, rfl, earlier, unresolved⟩
    exact mapM_of_first_error earlier unresolved after

/-- An error of resolving is that of one of the entries. -/
theorem exists_mem_of_mapM_eq_error {entries : List Entry} {error : Error}
    (refused : entries.mapM resolve = .error error) :
    ∃ entry ∈ entries, resolve entry = .error error := by
  obtain ⟨before, entry, after, rfl, -, unresolved⟩ := mapM_eq_error_iff.mp refused
  exact ⟨entry, by simp, unresolved⟩

/-- Every result is that of an entry. -/
theorem ResolvedTo.exists_entry {entries : List Entry} {results : List Result}
    (resolved : ResolvedTo resolve entries results) {result : Result} (member : result ∈ results) :
    ∃ entry ∈ entries, resolve entry = .ok result := by
  induction resolved with
  | nil => cases member
  | cons here _ inductionHypothesis =>
    rcases List.mem_cons.mp member with rfl | later
    · exact ⟨_, List.mem_cons_self, here⟩
    · obtain ⟨entry, among, found⟩ := inductionHypothesis later
      exact ⟨entry, List.mem_cons_of_mem _ among, found⟩

/-- What is made of each result is made of the results of the same entries. -/
theorem resolvedTo_map_iff {Other : Type} {adapt : Result → Other} {entries : List Entry}
    {others : List Other} :
    ResolvedTo (fun entry => (resolve entry).map adapt) entries others ↔
      ∃ results, ResolvedTo resolve entries results ∧ results.map adapt = others := by
  unfold ResolvedTo
  have each (entry : Entry) (other : Other) : (resolve entry).map adapt = .ok other ↔
      ∃ result, resolve entry = .ok result ∧ adapt result = other := by
    cases resolve entry <;> simp [Except.map]
  constructor
  · intro resolved
    induction resolved with
    | nil => exact ⟨[], .nil, rfl⟩
    | cons here _ inductionHypothesis =>
      obtain ⟨result, found, rfl⟩ := (each _ _).mp here
      obtain ⟨results, later, rfl⟩ := inductionHypothesis
      exact ⟨result :: results, .cons found later, rfl⟩
  · rintro ⟨results, resolved, rfl⟩
    rw [List.forall₂_map_right_iff]
    exact resolved.imp fun entry result found => (each _ _).mpr ⟨result, found, rfl⟩

/-! ### All entries, or the first that fails -/

/-- The outcome for a list of entries is a result for each of them, or the error of the first that
has none. -/
structure StopsAtFirst (resolve : Entry → Except Error Result)
    (outcome : List Entry → Except Error (List Result)) : Prop where
  succeeds_iff (entries : List Entry) :
    (∃ results, outcome entries = .ok results) ↔
      ∀ entry ∈ entries, ∃ result, resolve entry = .ok result
  each (entries : List Entry) (results : List Result) :
    outcome entries = .ok results ↔ ResolvedTo resolve entries results
  fails_iff (entries : List Entry) (error : Error) :
    outcome entries = .error error ↔
      ∃ before entry after, entries = before ++ entry :: after ∧
        (∀ earlier ∈ before, ∃ result, resolve earlier = .ok result) ∧
        resolve entry = .error error
  regardless (before : List Entry) (entry : Entry) (error : Error)
    (earlier : ∀ other ∈ before, ∃ result, resolve other = .ok result)
    (unresolved : resolve entry = .error error) (after : List Entry) :
    outcome (before ++ entry :: after) = .error error

theorem stopsAtFirst_mapM (resolve : Entry → Except Error Result) :
    StopsAtFirst resolve fun entries => entries.mapM resolve where
  succeeds_iff entries := by
    simp only [mapM_eq_ok_iff]
    exact exists_resolvedTo_iff
  each _ _ := mapM_eq_ok_iff
  fails_iff _ _ := mapM_eq_error_iff
  regardless _ _ _ := mapM_of_first_error

end

end ThriftCommand
