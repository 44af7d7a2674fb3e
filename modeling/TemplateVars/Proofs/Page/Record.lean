import TemplateVars.Page.Record
import TemplateVars.Proofs.SortedMap

/-!
# Page records by identifier and by name

A record keys its sets by identifier, renders know them by name. The two views
fit where no two stored sets share a name, which is half of what makes a record
well-formed; the other half is that every identifier in use is below the next
one. This file relates look-ups by name and the loaded collection to the stored
sets, for well-formed records and for others.
-/

namespace TemplateVars

namespace PageRecord

/-- No two stored sets share a name. -/
def DistinctNames (r : PageRecord) : Prop :=
  ∀ i j s t, r.sets.find? i = some s → r.sets.find? j = some t → s.name = t.name → i = j

/-- Every identifier in use is below the next one. -/
def IdsBelow (r : PageRecord) : Prop :=
  ∀ id s, r.sets.find? id = some s → id < r.nextSetId

/-- A record as storing leaves it: names differ and new identifiers are fresh. -/
structure WellFormed (r : PageRecord) : Prop where
  distinctNames : r.DistinctNames
  idsBelow : r.IdsBelow

theorem distinctNames_iff {r : PageRecord} :
    (∀ e ∈ r.sets.toList, ∀ f ∈ r.sets.toList, e.2.name = f.2.name → e.1 = f.1) ↔
      r.DistinctNames := by
  constructor
  · intro listed i j s t foundS foundT
    exact listed _ (SortedMap.find?_eq_some.1 foundS) _ (SortedMap.find?_eq_some.1 foundT)
  · intro distinct e listedE f listedF
    exact distinct _ _ _ _ (SortedMap.find?_eq_some.2 listedE) (SortedMap.find?_eq_some.2 listedF)

instance (r : PageRecord) : Decidable r.DistinctNames := decidable_of_iff _ distinctNames_iff

instance (r : PageRecord) : Decidable r.IdsBelow :=
  decidable_of_iff (∀ e ∈ r.sets.toList, e.1 < r.nextSetId)
    (SortedMap.forall_find?_iff (p := fun id _ => id < r.nextSetId)).symm

instance (r : PageRecord) : Decidable r.WellFormed :=
  decidable_of_iff (r.DistinctNames ∧ r.IdsBelow)
    ⟨fun wf => ⟨wf.1, wf.2⟩, fun wf => ⟨wf.distinctNames, wf.idsBelow⟩⟩

theorem IdsBelow.find?_eq_none {r : PageRecord} (below : r.IdsBelow) {id : SetId}
    (unused : r.nextSetId ≤ id) : r.sets.find? id = none := by
  rw [Option.eq_none_iff_forall_ne_some]
  intro s found
  exact Nat.not_lt.2 unused (below id s found)

/-- Whether some stored set has a name. -/
def HasName (r : PageRecord) (name : String) : Prop :=
  ∃ id s, r.sets.find? id = some s ∧ s.name = name

/-- The name that a set has under an identifier. -/
def nameOf (r : PageRecord) (id : SetId) : String := ((r.sets.find? id).map (·.name)).getD ""

theorem nameOf_of_stored {r : PageRecord} {id : SetId} {s : StoredSet}
    (stored : r.sets.find? id = some s) : r.nameOf id = s.name := by
  simp [nameOf, stored]

theorem wellFormed_new (page : PageId) : WellFormed { pageId := page } where
  distinctNames := by
    intro i j s t found
    simp at found
  idsBelow := by
    intro id s found
    simp at found

theorem newestRevId_le {r : PageRecord} {n : RevId}
    (each : ∀ id s, r.sets.find? id = some s → s.revId ≤ n) : r.newestRevId ≤ n := by
  have bound (l : List StoredSet) (m : RevId) (small : m ≤ n) (all : ∀ s ∈ l, s.revId ≤ n) :
      l.foldl (fun m s => max m s.revId) m ≤ n := by
    induction l generalizing m with
    | nil => exact small
    | cons s l ih =>
        exact ih _ (Nat.max_le.2 ⟨small, all s List.mem_cons_self⟩)
          fun s listed => all s (List.mem_cons_of_mem _ listed)
  refine bound _ 0 (Nat.zero_le n) ?_
  intro s listed
  rcases List.mem_map.1 listed with ⟨e, entry, rfl⟩
  exact each e.1 e.2 (SortedMap.find?_eq_some.2 entry)

/-! ### Look-ups by name -/

theorem find?_of_findByName? {r : PageRecord} {name : String} {id : SetId} {s : StoredSet}
    (found : r.findByName? name = some (id, s)) :
    r.sets.find? id = some s ∧ s.name = name := by
  refine ⟨SortedMap.find?_eq_some.2 (List.mem_of_find?_eq_some found), ?_⟩
  simpa using List.find?_some found

theorem findByName?_eq_none {r : PageRecord} {name : String} :
    r.findByName? name = none ↔ ¬r.HasName name := by
  simp only [findByName?, List.find?_eq_none, HasName, not_exists, not_and, Prod.forall,
    SortedMap.find?_eq_some, beq_iff_eq]

/-- A look-up by name finds the set of that name with the least identifier. -/
theorem findByName?_eq_some {r : PageRecord} {name : String} {id : SetId} {s : StoredSet} :
    r.findByName? name = some (id, s) ↔
      r.sets.find? id = some s ∧ s.name = name ∧
        ∀ j t, r.sets.find? j = some t → t.name = name → id ≤ j := by
  have least {i : SetId} {u : StoredSet} (found : r.findByName? name = some (i, u)) :
      ∀ j t, r.sets.find? j = some t → t.name = name → i ≤ j := by
    intro j t stored named
    -- entries are listed by ascending identifier, and no earlier one has the name
    rcases List.find?_eq_some_iff_append.1 found with ⟨-, before, after, listed, others⟩
    have sorted := r.sets.sorted
    have occurs := SortedMap.find?_eq_some.1 stored
    rw [listed] at sorted occurs
    rcases List.mem_append.1 occurs with early | late
    · simpa [named] using others _ early
    · rcases List.mem_cons.1 late with same | late
      · cases same
        exact Nat.le_refl _
      · have later := (List.pairwise_cons.1 (List.pairwise_append.1 sorted).2.1).1 _ late
        exact Nat.le_of_lt (Nat.compare_eq_lt.1 later)
  constructor
  · intro found
    have ⟨stored, named⟩ := find?_of_findByName? found
    exact ⟨stored, named, least found⟩
  · rintro ⟨stored, named, below⟩
    cases found : r.findByName? name with
    | none => exact absurd ⟨id, s, stored, named⟩ (findByName?_eq_none.1 found)
    | some e =>
        rcases e with ⟨i, u⟩
        have ⟨storedU, namedU⟩ := find?_of_findByName? found
        cases Nat.le_antisymm (below i u storedU namedU) (least found id s stored named)
        rw [stored] at storedU
        cases storedU
        rfl

/-- A look-up by name depends on nothing but the sets of that name. -/
theorem findByName?_congr {r q : PageRecord} {name : String}
    (same : ∀ id s, s.name = name → (r.sets.find? id = some s ↔ q.sets.find? id = some s)) :
    r.findByName? name = q.findByName? name := by
  apply Option.ext
  rintro ⟨id, s⟩
  rw [findByName?_eq_some, findByName?_eq_some]
  constructor
  · rintro ⟨found, named, least⟩
    exact ⟨(same id s named).1 found, named, fun j t stored called =>
      least j t ((same j t called).2 stored) called⟩
  · rintro ⟨found, named, least⟩
    exact ⟨(same id s named).2 found, named, fun j t stored called =>
      least j t ((same j t called).1 stored) called⟩

/-- Where names differ, a look-up by name finds the one set of that name. -/
theorem findByName?_of_distinct {r : PageRecord} (distinct : r.DistinctNames) {id : SetId}
    {s : StoredSet} (found : r.sets.find? id = some s) : r.findByName? s.name = some (id, s) :=
  findByName?_eq_some.2 ⟨found, rfl, fun j t stored named =>
    Nat.le_of_eq (distinct id j s t found stored named.symm)⟩

/-! ### Loaded collections -/

theorem foldl_insertStored (entries : List (SetId × StoredSet)) (c : SetCollection)
    (name : String) :
    let loaded := entries.foldl (fun c e => c.insertStored e.1 (asVariableSet e.1 e.2)) c
    (∃ e ∈ entries, e.2.name = name ∧
        loaded.sets.find? name = some (asVariableSet e.1 e.2) ∧
        loaded.setIds.find? name = some e.1) ∨
      (∀ e ∈ entries, e.2.name ≠ name) ∧
        loaded.sets.find? name = c.sets.find? name ∧
        loaded.setIds.find? name = c.setIds.find? name := by
  induction entries generalizing c with
  | nil => simp
  | cons e entries ih =>
      simp only [List.foldl_cons]
      rcases ih (c.insertStored e.1 (asVariableSet e.1 e.2)) with
        ⟨later, listed, found⟩ | ⟨absent, sets, ids⟩
      · exact Or.inl ⟨later, List.mem_cons_of_mem _ listed, found⟩
      · simp only [SetCollection.insertStored, asVariableSet, SortedMap.find?_insert] at sets ids
        by_cases named : e.2.name = name
        · left
          refine ⟨e, List.mem_cons_self, named, ?_, ?_⟩
          · simpa [named, asVariableSet, SetCollection.insertStored] using sets
          · simpa [named, asVariableSet, SetCollection.insertStored] using ids
        · right
          refine ⟨?_, ?_, ?_⟩
          · rintro other listed
            rcases List.mem_cons.1 listed with rfl | listed
            · exact named
            · exact absent other listed
          · simpa [Ne.symm named, asVariableSet, SetCollection.insertStored] using sets
          · simpa [Ne.symm named, asVariableSet, SetCollection.insertStored] using ids

theorem foldl_insertStored_ids (entries : List (SetId × StoredSet)) (c : SetCollection) :
    let loaded := entries.foldl (fun c e => c.insertStored e.1 (asVariableSet e.1 e.2)) c
    loaded.pageId = c.pageId ∧ loaded.revId = c.revId := by
  induction entries generalizing c with
  | nil => exact ⟨rfl, rfl⟩
  | cons e entries ih => simpa [SetCollection.insertStored] using ih (c.insertStored e.1 _)

@[simp]
theorem pageId_toCollection (r : PageRecord) : r.toCollection.pageId = r.pageId :=
  (foldl_insertStored_ids r.sets.toList _).1

@[simp]
theorem revId_toCollection (r : PageRecord) : r.toCollection.revId = r.newestRevId :=
  (foldl_insertStored_ids r.sets.toList _).2

/-- A name of a loaded collection stands for a stored set of that name, or for none. -/
theorem toCollection_cases (r : PageRecord) (name : String) :
    (∃ id s, r.sets.find? id = some s ∧ s.name = name ∧
        r.toCollection.sets.find? name = some (asVariableSet id s) ∧
        r.toCollection.idOf? name = some id) ∨
      ¬r.HasName name ∧ r.toCollection.sets.find? name = none ∧
        r.toCollection.idOf? name = none := by
  rcases foldl_insertStored r.sets.toList { pageId := r.pageId, revId := r.newestRevId } name with
    ⟨⟨id, s⟩, listed, named, sets, ids⟩ | ⟨absent, sets, ids⟩
  · left
    refine ⟨id, s, SortedMap.find?_eq_some.2 listed, named, sets, ?_⟩
    rw [SetCollection.idOf?, toCollection, ids]
    rfl
  · right
    have nowhere : r.toCollection.sets.find? name = none := sets
    refine ⟨?_, nowhere, ?_⟩
    · rintro ⟨id, s, found, named⟩
      exact absent (id, s) (SortedMap.find?_eq_some.1 found) named
    · rw [SetCollection.idOf?, nowhere, toCollection, ids]
      rfl

/-- Where names differ, a stored set is what its name stands for in the loaded collection. -/
theorem idOf?_of_distinct {r : PageRecord} (distinct : r.DistinctNames) {id : SetId}
    {s : StoredSet} (found : r.sets.find? id = some s) :
    r.toCollection.idOf? s.name = some id := by
  rcases r.toCollection_cases s.name with ⟨i, t, stored, named, -, ident⟩ | ⟨absent, -, -⟩
  · rwa [distinct i id t s stored found named] at ident
  · exact absurd ⟨id, s, found, rfl⟩ absent

end PageRecord

end TemplateVars
