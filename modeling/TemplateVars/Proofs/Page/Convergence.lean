import TemplateVars.Proofs.Page.Merge

/-!
# Convergence of a plan

A plan that was made against a record itself, and is applied to it before
anything else is, leaves the record with the sets of the render: the names to
insert are stored nowhere, the sets to update are all still there, and each of
them holds the very rows that the plan was made against.
-/

namespace TemplateVars

namespace Plan

variable (r : PageRecord) (new : SetCollection)

/-- What a record holds once a plan made against it is applied. -/
structure Replaces (r' : PageRecord) : Prop where
  wellFormed : r'.WellFormed
  kept : ∀ id s t, r.sets.find? id = some s → new.sets.find? s.name = some t →
    r'.sets.find? id = some (s.rewritten new.revId (PageRecord.asVariableSet id s) t)
  gone : ∀ id s, r.sets.find? id = some s → new.sets.find? s.name = none →
    r'.sets.find? id = none
  stored : ∀ name t, new.sets.find? name = some t → ¬r.HasName name →
    ∃ id, r.nextSetId ≤ id ∧ r'.sets.find? id = some (t.toStored new.revId)
  fresh : ∀ id s', r.sets.find? id = none → r'.sets.find? id = some s' →
    r.nextSetId ≤ id ∧ ¬r.HasName s'.name ∧
      ∃ t, new.sets.find? s'.name = some t ∧ s' = t.toStored new.revId

variable {r new}

theorem replaces_apply (wf : r.WellFormed) (keyed : new.Keyed)
    (differ : r.toCollection.contents ≠ new.contents) (now : Timestamp) :
    Replaces r new ((between (some r.toCollection) (some new)).apply now r).record := by
  have merges := mergesRender_apply wf wf.idsBelow.descends keyed differ now
  refine ⟨?_, ?_, merges.gone, ?_, ?_⟩
  · refine wellFormed_apply_between wf wf.idsBelow.descends keyed wf ?_ now
    intro id s found missing
    simp [found] at missing
  · intro id s t found rendered
    rcases merges.updated id s t s found rendered found with ⟨s', written, named, rev, rows⟩
    have vars : s'.vars = t.vars := by
      apply SortedMap.ext_find?
      intro row
      rw [rows]
      split
      · assumption
      · rfl
    have same : s' = s.rewritten new.revId (PageRecord.asVariableSet id s) t := by
      have written : (s.rewritten new.revId (PageRecord.asVariableSet id s) t).vars = t.vars :=
        StoredSet.vars_rewritten_of_eq rfl
      cases s'
      simp_all [StoredSet.rewritten]
    rw [written, same]
  · intro name t rendered absent
    exact merges.inserted name t rendered absent absent
  · intro id s' missing found
    rcases merges.fresh id s' missing found with
      ⟨unused, t, rendered, rfl, ⟨absent, -⟩ | ⟨i, s, stored, -, gone⟩⟩
    · exact ⟨unused, absent, t, rendered, rfl⟩
    · simp [stored] at gone

/-- A record whose sets were replaced says what the render says. -/
theorem Replaces.contents_eq (keyed : new.Keyed) {r' : PageRecord}
    (replaced : Replaces r new r') : r'.toCollection.contents = new.contents := by
  have present : ∀ name t, new.sets.find? name = some t →
      ∃ id s, r'.sets.find? id = some s ∧ s.name = name ∧ s.vars = t.vars := by
    intro name t rendered
    by_cases stored : r.HasName name
    · rcases stored with ⟨id, s, found, rfl⟩
      exact ⟨id, _, replaced.kept id s t found rendered, rfl,
        StoredSet.vars_rewritten_of_eq rfl⟩
    · rcases replaced.stored name t rendered stored with ⟨id, -, found⟩
      exact ⟨id, _, found, keyed name t rendered, rfl⟩
  have rendered : ∀ id s', r'.sets.find? id = some s' → new.sets.find? s'.name ≠ none := by
    intro id s' found
    cases before : r.sets.find? id with
    | none =>
        rcases replaced.fresh id s' before found with ⟨-, -, t, isRendered, -⟩
        simp [isRendered]
    | some s =>
        cases isRendered : new.sets.find? s.name with
        | none =>
            rw [replaced.gone id s before isRendered] at found
            cases found
        | some t =>
            rw [replaced.kept id s t before isRendered] at found
            cases found
            simp [isRendered]
  apply SortedMap.ext_find?
  intro name
  rw [SetCollection.find?_contents, SetCollection.find?_contents]
  rcases r'.toCollection_cases name with ⟨id, s, found, named, loaded, -⟩ | ⟨absent, loaded, -⟩
  · subst named
    rcases Option.ne_none_iff_exists'.1 (rendered id s found) with ⟨t, isRendered⟩
    rcases present s.name t isRendered with ⟨i, u, found', same, vars⟩
    cases replaced.wellFormed.distinctNames i id u s found' found same
    rw [found] at found'
    cases found'
    rw [loaded, isRendered]
    simp [PageRecord.asVariableSet, vars, keyed s.name t isRendered]
  · rw [loaded]
    cases isRendered : new.sets.find? name with
    | none => rfl
    | some t =>
        rcases present name t isRendered with ⟨id, s, found, named, -⟩
        exact absurd ⟨id, s, found, named⟩ absent

theorem afterUpdates_of_isEmpty {p : Plan} (nothing : p.isEmpty = true) (r : PageRecord) :
    p.afterUpdates r = r := by
  have parts : (p.deletes.toList = [] ∧ p.inserts = []) ∧ p.updates.toList = [] := by
    simpa [isEmpty, total, SortedMap.size] using nothing
  simp [afterUpdates, afterInserts, afterDeletes, withUpdates, PageRecord.without,
    SortedMap.keys, parts]

/-- An empty plan changes nothing. -/
theorem apply_of_isEmpty {p : Plan} (nothing : p.isEmpty = true) (now : Timestamp)
    (r : PageRecord) : (p.apply now r).record = r := by
  rw [record_apply, afterUpdates_of_isEmpty nothing, if_pos nothing]

/-- A plan against a well-formed record leaves a well-formed one that says what the render says. -/
theorem apply_between_toCollection {r : PageRecord} {new : SetCollection} (wf : r.WellFormed)
    (keyed : new.Keyed) (now : Timestamp) :
    let r' := ((between (some r.toCollection) (some new)).apply now r).record
    r'.WellFormed ∧ r'.toCollection.contents = new.contents := by
  intro r'
  by_cases same : r.toCollection.contents = new.contents
  · have unchanged : r' = r := apply_of_isEmpty ((isEmpty_between_iff r new).2 same) now r
    rw [unchanged]
    exact ⟨wf, same⟩
  · have replaced := replaces_apply wf keyed same now
    exact ⟨replaced.wellFormed, replaced.contents_eq keyed⟩

/-- Applied to its own record, a plan stores under new identifiers only what has a new name. -/
theorem newName_of_fresh {r : PageRecord} {new : SetCollection} (wf : r.WellFormed)
    (keyed : new.Keyed) {now : Timestamp} {id : SetId} {s : StoredSet}
    (absent : r.sets.find? id = none)
    (found : ((between (some r.toCollection) (some new)).apply now r).record.sets.find? id =
      some s) : ¬r.HasName s.name := by
  by_cases same : r.toCollection.contents = new.contents
  · rw [apply_of_isEmpty ((isEmpty_between_iff r new).2 same), absent] at found
    cases found
  · exact ((replaces_apply wf keyed same now).fresh id s absent found).2.1

/-- A name keeps its identifier as long as it is stored. -/
theorem id_eq_of_name_eq {r : PageRecord} {new : SetCollection} (wf : r.WellFormed)
    (keyed : new.Keyed) {now : Timestamp} {i j : SetId} {s s' : StoredSet}
    (found : r.sets.find? i = some s)
    (found' : ((between (some r.toCollection) (some new)).apply now r).record.sets.find? j =
      some s') (named : s'.name = s.name) : j = i := by
  cases before : r.sets.find? j with
  | none => exact absurd ⟨i, s, found, named.symm⟩ (newName_of_fresh wf keyed before found')
  | some t =>
      have called := (wf.idsBelow.descends.apply wf.idsBelow _ now).sameNames j t s' before found'
      exact wf.distinctNames j i t s before found (called.trans named)

end Plan

end TemplateVars
