import TemplateVars.Proofs.Page.Apply

/-!
# What keeps records well-formed

A record is changed by dropping sets, by writing rows into a stored set and by
storing a set under the next identifier. All three keep identifiers below the
next one. The first two keep names different as well, and so does storing a set
anew exactly if its name is free.
-/

namespace TemplateVars.PageRecord

/-! ### Dropping sets -/

theorem IdsBelow.without {r : PageRecord} (below : r.IdsBelow) (ids : List SetId) :
    (r.without ids).IdsBelow := by
  intro id s found
  rw [find?_without] at found
  split at found
  · cases found
  · exact below id s found

theorem WellFormed.without {r : PageRecord} (wf : r.WellFormed) (ids : List SetId) :
    (r.without ids).WellFormed where
  distinctNames := by
    intro i j s t foundS foundT
    rw [find?_without] at foundS foundT
    split at foundS
    · cases foundS
    · split at foundT
      · cases foundT
      · exact wf.distinctNames i j s t foundS foundT
  idsBelow := wf.idsBelow.without ids

/-! ### Writing rows into a stored set -/

/-- Rewriting changes neither which identifiers are in use nor the names of their sets. -/
theorem exists_of_rewrite {r : PageRecord} {rev : RevId} {id : SetId} {old new : VariableSet}
    {i : SetId} {s : StoredSet} (found : (r.rewrite rev id old new).sets.find? i = some s) :
    ∃ t, r.sets.find? i = some t ∧ t.name = s.name := by
  rw [find?_rewrite] at found
  split at found
  · rename_i same
    rcases Option.map_eq_some_iff.1 found with ⟨t, stored, rfl⟩
    exact ⟨t, same ▸ stored, rfl⟩
  · exact ⟨s, found, rfl⟩

theorem IdsBelow.rewrite {r : PageRecord} (below : r.IdsBelow) (rev : RevId) (id : SetId)
    (old new : VariableSet) : (r.rewrite rev id old new).IdsBelow := by
  intro i s found
  rcases exists_of_rewrite found with ⟨t, stored, -⟩
  rw [nextSetId_rewrite]
  exact below i t stored

theorem WellFormed.rewrite {r : PageRecord} (wf : r.WellFormed) (rev : RevId) (id : SetId)
    (old new : VariableSet) : (r.rewrite rev id old new).WellFormed where
  distinctNames := by
    intro i j s t foundS foundT same
    rcases exists_of_rewrite foundS with ⟨s', storedS, nameS⟩
    rcases exists_of_rewrite foundT with ⟨t', storedT, nameT⟩
    exact wf.distinctNames i j s' t' storedS storedT (nameS.trans (same.trans nameT.symm))
  idsBelow := wf.idsBelow.rewrite rev id old new

theorem hasName_rewrite (r : PageRecord) (rev : RevId) (id : SetId) (old new : VariableSet)
    (name : String) : (r.rewrite rev id old new).HasName name ↔ r.HasName name := by
  constructor
  · rintro ⟨i, s, found, named⟩
    rcases exists_of_rewrite found with ⟨t, stored, called⟩
    exact ⟨i, t, stored, called.trans named⟩
  · rintro ⟨i, s, found, named⟩
    by_cases same : i = id
    · subst same
      refine ⟨i, s.rewritten rev old new, ?_, named⟩
      rw [find?_rewrite, if_pos rfl, found, Option.map_some]
    · exact ⟨i, s, by rw [find?_rewrite, if_neg same, found], named⟩

/-! ### Storing a set anew -/

theorem hasName_storeNew {r : PageRecord} (below : r.IdsBelow) (s : StoredSet) (name : String) :
    (r.storeNew s).HasName name ↔ s.name = name ∨ r.HasName name := by
  constructor
  · rintro ⟨id, t, found, named⟩
    rw [find?_storeNew] at found
    split at found
    · cases found
      exact Or.inl named
    · exact Or.inr ⟨id, t, found, named⟩
  · rintro (named | ⟨id, t, found, named⟩)
    · exact ⟨r.nextSetId, s, by rw [find?_storeNew, if_pos rfl], named⟩
    · have older : id ≠ r.nextSetId := Nat.ne_of_lt (below id t found)
      exact ⟨id, t, by rw [find?_storeNew, if_neg older, found], named⟩

theorem IdsBelow.storeNew {r : PageRecord} (below : r.IdsBelow) (s : StoredSet) :
    (r.storeNew s).IdsBelow := by
  intro id t found
  rw [find?_storeNew] at found
  split at found
  · rename_i same
    exact same ▸ Nat.lt_succ_self _
  · exact Nat.lt_succ_of_lt (below id t found)

/-- What was stored before a set is stored anew stays as it is. -/
theorem find?_storeNew_of_stored {r : PageRecord} (below : r.IdsBelow) {id : SetId}
    {t : StoredSet} (found : r.sets.find? id = some t) (s : StoredSet) :
    (r.storeNew s).sets.find? id = some t := by
  rw [find?_storeNew, if_neg (Nat.ne_of_lt (below id t found)), found]

/-- Storing a set anew keeps names different exactly when its name was free. -/
theorem distinctNames_storeNew_iff {r : PageRecord} (below : r.IdsBelow)
    (distinct : r.DistinctNames) (s : StoredSet) :
    (r.storeNew s).DistinctNames ↔ ¬r.HasName s.name := by
  have latest : (r.storeNew s).sets.find? r.nextSetId = some s := by
    rw [find?_storeNew, if_pos rfl]
  constructor
  · rintro still ⟨id, t, found, named⟩
    have older : id ≠ r.nextSetId := Nat.ne_of_lt (below id t found)
    exact older (still _ _ _ _ (find?_storeNew_of_stored below found s) latest named)
  · intro free i j a b foundA foundB same
    rw [find?_storeNew] at foundA foundB
    split at foundA <;> split at foundB
    · simp_all
    · cases foundA
      exact absurd ⟨j, b, foundB, same.symm⟩ free
    · cases foundB
      exact absurd ⟨i, a, foundA, same⟩ free
    · exact distinct i j a b foundA foundB same

theorem WellFormed.storeNew {r : PageRecord} (wf : r.WellFormed) {s : StoredSet}
    (free : ¬r.HasName s.name) : (r.storeNew s).WellFormed where
  distinctNames := (distinctNames_storeNew_iff wf.idsBelow wf.distinctNames s).2 free
  idsBelow := wf.idsBelow.storeNew s

end TemplateVars.PageRecord
