import Mathlib.Data.List.Perm.Basic

/-!
# Entries that are replaced

A list of workers or callers changes one entry at a time, and a list of entries
with keys changes the one of a key.
-/

namespace Telemetry

/-- A list with one entry changed, as what comes before and what comes behind it. -/
theorem exists_set_eq {entry : Type} {entries : List entry} {index : Nat} {old : entry}
    (found : entries[index]? = some old) :
    ∃ before behind, entries = before ++ old :: behind ∧
      ∀ new, entries.set index new = before ++ new :: behind := by
  obtain ⟨inside, same⟩ := List.getElem?_eq_some_iff.mp found
  refine ⟨entries.take index, entries.drop (index + 1), ?_, ?_⟩
  · rw [← same, List.getElem_cons_drop, List.take_append_drop]
  · intro new
    rw [List.set_eq_take_append_cons_drop, if_pos inside]

/-- What stands in a list with one entry changed is that entry, or stood there before. -/
theorem getElem?_set_cases
    {entry : Type} {entries : List entry} {index other : Nat} {new found : entry}
    (present : (entries.set index new)[other]? = some found) :
    (other = index ∧ found = new) ∨ (other ≠ index ∧ entries[other]? = some found) := by
  by_cases same : other = index
  · have inside : index < entries.length := by
      have bound := (List.getElem?_eq_some_iff.mp present).1
      rwa [List.length_set, same] at bound
    rw [same, List.getElem?_set_self inside] at present
    exact Or.inl ⟨same, (Option.some.inj present).symm⟩
  · rw [List.getElem?_set_ne (Ne.symm same)] at present
    exact Or.inr ⟨same, present⟩

/-- An entry stays in a list when an entry that differs from it is changed. -/
theorem getElem?_set_of_differs
    {entry : Type} {entries : List entry} {index other : Nat} {old new kept : entry}
    (found : entries[index]? = some old)
    (present : entries[other]? = some kept)
    (differs : old ≠ kept) :
    (entries.set index new)[other]? = some kept := by
  have apart : index ≠ other := by
    rintro rfl
    exact differs (Option.some.inj (found.symm.trans present))
  rw [List.getElem?_set_ne apart, present]

/-- What stands in a list with one more entry is that entry, or stood there before. -/
theorem getElem?_concat_cases
    {entry : Type} {entries : List entry} {index : Nat} {last found : entry}
    (present : (entries ++ [last])[index]? = some found) :
    entries[index]? = some found ∨ (index = entries.length ∧ found = last) := by
  rw [List.getElem?_append] at present
  split at present
  next => exact Or.inl present
  next outside =>
    obtain ⟨bound, same⟩ := List.getElem?_eq_some_iff.mp present
    rw [List.length_singleton] at bound
    rw [List.getElem_singleton] at same
    exact Or.inr ⟨by omega, same.symm⟩

/-- An entry that yields more than the one before it adds that much to what all entries yield. -/
theorem flatMap_set_perm
    {entry value : Type} {entries : List entry} {index : Nat} {old new : entry}
    {yield : entry -> List value} {more : List value}
    (found : entries[index]? = some old)
    (grows : yield new = yield old ++ more) :
    ((entries.set index new).flatMap yield).Perm (entries.flatMap yield ++ more) := by
  obtain ⟨before, behind, split, set⟩ := exists_set_eq found
  rw [set, split]
  simp only [List.flatMap_append, List.flatMap_cons, grows, List.append_assoc]
  exact ((List.perm_append_comm.append_left (yield old)).append_left (before.flatMap yield))

/-- An entry that yields as much as the one before it changes nothing of what all entries yield. -/
theorem flatMap_set_eq
    {entry value : Type} {entries : List entry} {index : Nat} {old new : entry}
    {yield : entry -> List value}
    (found : entries[index]? = some old)
    (same : yield new = yield old) :
    (entries.set index new).flatMap yield = entries.flatMap yield := by
  obtain ⟨before, behind, split, set⟩ := exists_set_eq found
  rw [set, split, List.flatMap_append, List.flatMap_append, List.flatMap_cons, List.flatMap_cons,
    same]

/-- Without the entries of a key, only that key is not found any more. -/
theorem lookup_filter_ne
    {value : Type} (entries : List (String × value)) (key other : String)
    (different : other ≠ key) :
    (entries.filter fun entry => entry.1 != key).lookup other = entries.lookup other := by
  induction entries with
  | nil => rfl
  | cons entry rest inductionHypothesis =>
      obtain ⟨name, value⟩ := entry
      by_cases dropped : name = key
      · subst dropped
        have skipped : (other == name) = false := by simpa using different
        simp [List.lookup_cons, inductionHypothesis, skipped]
      · simp [List.lookup_cons, inductionHypothesis, dropped]

/-- An entry whose key occurs once can be put in front of all others. -/
theorem cons_filter_ne_perm
    {value : Type} {entries : List (String × value)} {key : String} {found : value}
    (once : (entries.map Prod.fst).Nodup)
    (present : entries.lookup key = some found) :
    ((key, found) :: entries.filter fun entry => entry.1 != key).Perm entries := by
  induction entries with
  | nil => cases present
  | cons entry rest inductionHypothesis =>
      obtain ⟨name, value⟩ := entry
      rw [List.map_cons, List.nodup_cons] at once
      by_cases same : key = name
      · subst same
        have absent : rest.filter (fun entry => entry.1 != key) = rest := by
          rw [List.filter_eq_self]
          intro entry inside
          have different : entry.1 ≠ key := fun same =>
            once.1 (List.mem_map.mpr ⟨entry, inside, same⟩)
          exact bne_iff_ne.mpr different
        have first : value = found := by simpa using present
        simp [absent, first]
      · have skipped : (key == name) = false := by simpa using same
        rw [List.lookup_cons, skipped] at present
        have kept : (name != key) = true := bne_iff_ne.mpr (Ne.symm same)
        rw [List.filter_cons, if_pos kept]
        exact (List.Perm.swap _ _ _).trans ((inductionHypothesis once.2 present).cons _)

end Telemetry
