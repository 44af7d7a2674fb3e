import TemplateVars.Proofs.Page.Placement
import TemplateVars.Proofs.Page.Stale

/-!
# Merging a plan into a record that has moved on

A plan may be applied to a record that other plans have changed since it was
made. Identifiers are never given twice, so those that the plan knows still
stand for the same names or for nothing, and the plan fits the record. It then
merges three ways: a row changes exactly if the render changed it, sets that
are gone or new are stored, and nothing else is touched.
-/

namespace TemplateVars

namespace Plan

/-- What a plan makes of a record, which may have moved on since the plan was made. -/
structure Merges (p : Plan) (r r' : PageRecord) : Prop where
  /-- A set to delete is gone. -/
  deleted : ∀ id ∈ p.deletes.keys, r'.sets.find? id = none
  /-- A set to update takes the rows on which the two forms differ and keeps all others. -/
  updated : ∀ id old t s, p.updates.find? id = some (old, t) → r.sets.find? id = some s →
    ∃ s', r'.sets.find? id = some s' ∧ s'.name = s.name ∧ s'.revId = max s.revId p.newRevId ∧
      ∀ row, s'.vars.find? row =
        if old.vars.find? row = t.vars.find? row then s.vars.find? row else t.vars.find? row
  /-- A set to update that is gone is stored anew. -/
  restored : ∀ id old t, p.updates.find? id = some (old, t) → r.sets.find? id = none →
    ∃ fresh, r.nextSetId ≤ fresh ∧ r'.sets.find? fresh = some (t.toStored p.newRevId)
  /-- A set to insert takes the place of the rows of the first set of its name. -/
  replaced : ∀ t ∈ p.inserts, ∀ id s, (p.afterDeletes r).findByName? t.name = some (id, s) →
    ∃ s', r'.sets.find? id = some s' ∧ s'.name = t.name ∧ s'.revId = max s.revId p.newRevId ∧
      s'.vars = t.vars
  /-- A set to insert is stored anew if no set has its name. -/
  inserted : ∀ t ∈ p.inserts, ¬(p.afterDeletes r).HasName t.name →
    ∃ fresh, r.nextSetId ≤ fresh ∧ r'.sets.find? fresh = some (t.toStored p.newRevId)
  /-- All other sets stay as they are. -/
  kept : ∀ id s, r.sets.find? id = some s → id ∉ p.deletes.keys → p.updates.find? id = none →
    (∀ t ∈ p.inserts, (p.afterDeletes r).findByName? t.name ≠ some (id, s)) →
    r'.sets.find? id = some s
  /-- No other sets are stored. -/
  fresh : ∀ id s, r.sets.find? id = none → r'.sets.find? id = some s → r.nextSetId ≤ id ∧
    ((∃ t ∈ p.inserts, ¬(p.afterDeletes r).HasName t.name ∧ s = t.toStored p.newRevId) ∨
      ∃ i old t, p.updates.find? i = some (old, t) ∧ r.sets.find? i = none ∧
        s = t.toStored p.newRevId)

variable {p : Plan}

theorem Fits.merges_afterUpdates {r : PageRecord} (fits : p.Fits r) (below : r.IdsBelow) :
    p.Merges r (p.afterUpdates r) := by
  have takes := fits.takes below
  have inserts {t : VariableSet} (planned : t ∈ p.inserts) :
      (p.afterDeletes r).placeByName t ∈ p.placements r :=
    List.mem_append_left _ (List.mem_map_of_mem planned)
  have updates {id : SetId} {e : VariableSet × VariableSet}
      (planned : p.updates.find? id = some e) :
      (p.afterDeletes r).placeById (id, e) ∈ p.placements r :=
    List.mem_append_right _ (List.mem_map_of_mem (SortedMap.find?_eq_some.1 planned))
  refine ⟨?_, ?_, ?_, ?_, ?_, ?_, ?_⟩
  · -- a deleted identifier has been given, so no set stored anew can have it
    intro id deleted
    rw [Option.eq_none_iff_forall_ne_some]
    intro s back
    have gone : (p.afterDeletes r).sets.find? id = none := by
      rw [afterDeletes, PageRecord.find?_without, if_pos deleted]
    rcases takes.fresh id s gone back with ⟨unused, -⟩
    exact Nat.not_lt.2 unused (fits.deletes_below id deleted)
  · intro id old t s planned found
    have present := find?_afterDeletes_eq_some.2 ⟨fits.spared id _ planned, found⟩
    have written := takes.rewritten _ (updates planned) id old s
      (PageRecord.over?_placeById.2 ⟨⟨s, present⟩, rfl, rfl⟩) present
    exact ⟨_, written, rfl, rfl, fun row => RowDiff.find?_applyTo_between old t s.vars row⟩
  · intro id old t planned gone
    refine takes.stored _ (updates planned) (PageRecord.over?_placeById_eq_none.2 ?_)
    rw [afterDeletes, PageRecord.find?_without, gone, ite_self]
  · intro t planned id s first
    rcases PageRecord.find?_of_findByName? first with ⟨present, named⟩
    have written := takes.rewritten _ (inserts planned) id _ s
      (PageRecord.over?_placeByName.2 ⟨s, first, rfl⟩) present
    exact ⟨_, written, named, rfl, StoredSet.vars_rewritten_of_eq rfl⟩
  · intro t planned free
    exact takes.stored _ (inserts planned) (PageRecord.over?_placeByName_eq_none.2 free)
  · intro id s found spared unplanned elsewhere
    have present := find?_afterDeletes_eq_some.2 ⟨spared, found⟩
    refine takes.kept id s present fun w listed old occupied => ?_
    rcases List.mem_append.1 listed with insert | update
    · rcases List.mem_map.1 insert with ⟨t, planned, rfl⟩
      rcases PageRecord.over?_placeByName.1 occupied with ⟨u, first, -⟩
      rcases PageRecord.find?_of_findByName? first with ⟨stored, -⟩
      rw [present] at stored
      cases stored
      exact elsewhere t planned first
    · rcases List.mem_map.1 update with ⟨e, planned, rfl⟩
      rcases PageRecord.over?_placeById.1 occupied with ⟨-, rfl, -⟩
      rw [SortedMap.find?_eq_some.2 planned] at unplanned
      cases unplanned
  · intro id s absent found
    have before : (p.afterDeletes r).sets.find? id = none := by
      rw [afterDeletes, PageRecord.find?_without, absent, ite_self]
    rcases takes.fresh id s before found with ⟨unused, w, listed, anew, rfl⟩
    refine ⟨unused, ?_⟩
    rcases List.mem_append.1 listed with insert | update
    · rcases List.mem_map.1 insert with ⟨t, planned, rfl⟩
      exact Or.inl ⟨t, planned, PageRecord.over?_placeByName_eq_none.1 anew, rfl⟩
    · rcases List.mem_map.1 update with ⟨e, planned, rfl⟩
      have planned := SortedMap.find?_eq_some.2 planned
      refine Or.inr ⟨e.1, e.2.1, e.2.2, planned, ?_, rfl⟩
      have gone := PageRecord.over?_placeById_eq_none.1 anew
      rwa [afterDeletes, PageRecord.find?_without, if_neg (fits.spared e.1 _ planned)] at gone

/-- A plan that fits a record merges into it. -/
theorem Fits.merges {r : PageRecord} (fits : p.Fits r) (below : r.IdsBelow) (now : Timestamp) :
    p.Merges r (p.apply now r).record := by
  have merges := fits.merges_afterUpdates below
  have same := p.sets_apply now r
  refine ⟨?_, ?_, ?_, ?_, ?_, ?_, ?_⟩ <;> rw [same]
  · exact merges.deleted
  · exact merges.updated
  · exact merges.restored
  · exact merges.replaced
  · exact merges.inserted
  · exact merges.kept
  · exact merges.fresh

/-- Names stay different if the sets to update that are gone have free names that differ. -/
theorem Fits.wellFormed_apply {r : PageRecord} (fits : p.Fits r) (wf : r.WellFormed)
    (free : ∀ id e, p.updates.find? id = some e → r.sets.find? id = none →
      ¬r.HasName e.2.name ∧ ∀ t ∈ p.inserts, t.name ≠ e.2.name)
    (differ : ∀ i j e f, p.updates.find? i = some e → p.updates.find? j = some f →
      r.sets.find? i = none → r.sets.find? j = none → e.2.name = f.2.name → i = j)
    (now : Timestamp) : (p.apply now r).record.WellFormed := by
  have gone {e : SetId × VariableSet × VariableSet} (update : e ∈ p.updates.toList)
      (anew : ((p.afterDeletes r).placeById e).over? = none) :
      p.updates.find? e.1 = some e.2 ∧ r.sets.find? e.1 = none := by
    have planned := SortedMap.find?_eq_some.2 update
    have absent := PageRecord.over?_placeById_eq_none.1 anew
    rw [afterDeletes, PageRecord.find?_without, if_neg (fits.spared e.1 _ planned)] at absent
    exact ⟨planned, absent⟩
  have fewer {name : String} (named : (p.afterDeletes r).HasName name) : r.HasName name := by
    rcases named with ⟨id, s, found, called⟩
    exact ⟨id, s, (find?_afterDeletes_eq_some.1 found).2, called⟩
  have written : (p.afterUpdates r).WellFormed := by
    rw [fits.afterUpdates_eq wf.idsBelow]
    refine (wf.without _).foldl_place p.newRevId ?_ ?_
    · intro w listed anew
      rcases List.mem_append.1 listed with inserted | updated
      · rcases List.mem_map.1 inserted with ⟨t, -, rfl⟩
        exact PageRecord.over?_placeByName_eq_none.1 anew
      · rcases List.mem_map.1 updated with ⟨e, update, rfl⟩
        rcases gone update anew with ⟨planned, absent⟩
        exact fun named => (free e.1 e.2 planned absent).1 (fewer named)
    · rw [placements, List.pairwise_append]
      refine ⟨?_, ?_, ?_⟩
      · refine List.pairwise_map.2 ((List.pairwise_map.1 fits.inserts_nodup).imp ?_)
        exact fun differ _ _ => differ
      · refine List.pairwise_map.2 ((List.pairwise_map.1 p.updates.keys_nodup).imp_of_mem ?_)
        intro e f update update' other anew anew' same
        rcases gone update anew with ⟨planned, absent⟩
        rcases gone update' anew' with ⟨planned', absent'⟩
        exact other (differ e.1 f.1 e.2 f.2 planned planned' absent absent' same)
      · intro w inserted v updated anew anew'
        rcases List.mem_map.1 inserted with ⟨t, insert, rfl⟩
        rcases List.mem_map.1 updated with ⟨e, update, rfl⟩
        rcases gone update anew' with ⟨planned, absent⟩
        exact (free e.1 e.2 planned absent).2 t insert
  constructor
  · intro i j s t
    rw [sets_apply]
    exact written.distinctNames i j s t
  · intro id s
    rw [sets_apply, nextSetId_apply]
    exact written.idsBelow id s

/-! ### Plans that are up to date -/

/-- A plan that knows what is stored: nothing is gone by now, and no new name is taken. -/
structure Current (p : Plan) (r : PageRecord) : Prop where
  fits : p.Fits r
  deletes_stored : ∀ id ∈ p.deletes.keys, ∃ s, r.sets.find? id = some s
  updates_stored : ∀ id e, p.updates.find? id = some e → ∃ s, r.sets.find? id = some s
  inserts_free : ∀ t ∈ p.inserts, ¬r.HasName t.name

theorem Current.stored_afterDeletes {r : PageRecord} (current : p.Current r) {id : SetId}
    {e : VariableSet × VariableSet} (planned : p.updates.find? id = some e) :
    ∃ s, (p.afterDeletes r).sets.find? id = some s := by
  rcases current.updates_stored id e planned with ⟨s, found⟩
  exact ⟨s, find?_afterDeletes_eq_some.2 ⟨current.fits.spared id e planned, found⟩⟩

theorem Current.free_afterDeletes {r : PageRecord} (current : p.Current r) {t : VariableSet}
    (planned : t ∈ p.inserts) : ¬(p.afterDeletes r).HasName t.name := by
  rintro ⟨id, s, found, named⟩
  exact current.inserts_free t planned ⟨id, s, (find?_afterDeletes_eq_some.1 found).2, named⟩

theorem Current.wellFormed_apply {r : PageRecord} (current : p.Current r) (wf : r.WellFormed)
    (now : Timestamp) : (p.apply now r).record.WellFormed := by
  refine current.fits.wellFormed_apply wf ?_ ?_ now
  · intro id e planned gone
    rcases current.updates_stored id e planned with ⟨s, found⟩
    rw [gone] at found
    cases found
  · intro i j e f planned planned' gone
    rcases current.updates_stored i e planned with ⟨s, found⟩
    rw [gone] at found
    cases found

/-- A plan that is up to date takes an identifier for each of its inserts. -/
theorem Current.nextSetId_apply {r : PageRecord} (current : p.Current r) (below : r.IdsBelow)
    (now : Timestamp) : (p.apply now r).record.nextSetId = r.nextSetId + p.inserts.length := by
  have inserts : (p.inserts.map (p.afterDeletes r).placeByName).countP (·.over?.isNone) =
      p.inserts.length := by
    rw [List.countP_map, List.countP_eq_length]
    intro t planned
    exact Option.isNone_iff_eq_none.2
      (PageRecord.over?_placeByName_eq_none.2 (current.free_afterDeletes planned))
  have updates : (p.updates.toList.map (p.afterDeletes r).placeById).countP (·.over?.isNone) =
      0 := by
    rw [List.countP_map, List.countP_eq_zero]
    intro e listed anew
    rcases current.stored_afterDeletes (SortedMap.find?_eq_some.2 listed) with ⟨s, found⟩
    rw [PageRecord.over?_placeById_eq_none.1 (Option.isNone_iff_eq_none.1 anew)] at found
    cases found
  rw [Plan.nextSetId_apply, (current.fits.takes below).nextSetId_eq, placements,
    List.countP_append, inserts, updates]
  rfl

end Plan

namespace PageRecord

/-- What every record has in common with the records that plans make of it. -/
structure Descends (r₀ r : PageRecord) : Prop where
  idsBelow : r.IdsBelow
  nextSetId_le : r₀.nextSetId ≤ r.nextSetId
  sameNames : Plan.SameNames r₀ r

theorem IdsBelow.descends {r : PageRecord} (below : r.IdsBelow) : r.Descends r where
  idsBelow := below
  nextSetId_le := Nat.le_refl _
  sameNames := by
    intro id s t found found'
    rw [found] at found'
    cases found'
    rfl

theorem Descends.apply {r₀ r : PageRecord} (descends : r₀.Descends r) (below : r₀.IdsBelow)
    (p : Plan) (now : Timestamp) : r₀.Descends (p.apply now r).record where
  idsBelow := Plan.idsBelow_apply descends.idsBelow now
  nextSetId_le := by
    rw [Plan.nextSetId_apply]
    exact Nat.le_trans descends.nextSetId_le
      (Plan.grows_afterUpdates descends.idsBelow).nextSetId_le
  sameNames := by
    intro id s t found found'
    cases present : r.sets.find? id with
    | none =>
        -- a set stored anew has an identifier that the first record cannot have used
        rcases Plan.apply_fresh descends.idsBelow now present found' with ⟨unused, -⟩
        have used := below id s found
        have least := descends.nextSetId_le
        lia
    | some u =>
        rcases Plan.apply_stored descends.idsBelow now present with
          ⟨-, gone⟩ | ⟨-, u', kept, named, -⟩
        · rw [gone] at found'
          cases found'
        · rw [kept] at found'
          cases found'
          exact (descends.sameNames id s u found present).trans named.symm

theorem Descends.foldl {r₀ r : PageRecord} (descends : r₀.Descends r) (below : r₀.IdsBelow)
    (plans : List (Plan × Timestamp)) :
    r₀.Descends (plans.foldl (fun r e => (e.1.apply e.2 r).record) r) := by
  induction plans generalizing r with
  | nil => exact descends
  | cons e plans ih => exact ih (descends.apply below e.1 e.2)

end PageRecord

namespace Plan

/-- A plan fits every record that descends from the one that it was made against. -/
theorem fits_between {r₀ r : PageRecord} (wf : r₀.WellFormed) (descends : r₀.Descends r)
    {new : SetCollection} (keyed : new.Keyed) :
    (between (some r₀.toCollection) (some new)).Fits r := by
  have given {id : SetId} {s : StoredSet} (found : r₀.sets.find? id = some s) :
      id < r.nextSetId :=
    Nat.lt_of_lt_of_le (wf.idsBelow id s found) descends.nextSetId_le
  by_cases same : r₀.toCollection.contents = new.contents
  · rw [between_of_same r₀ new same]
    exact ⟨.nil, nofun, nofun, nofun, nofun⟩
  · rw [between_of_differ r₀ new same]
    refine ⟨insertsBetween_names_nodup r₀ new keyed, ?_, ?_, ?_, ?_⟩
    · intro id planned
      rcases (mem_deletesBetween_of_distinct r₀ new wf.distinctNames).1 planned with ⟨s, found, -⟩
      exact given found
    · rintro id ⟨old, t⟩ planned
      rcases (find?_updatesBetween_of_distinct r₀ new wf.distinctNames).1 planned with ⟨s, found, -⟩
      exact given found
    · rintro id ⟨old, t⟩ planned deleted
      rcases (find?_updatesBetween_of_distinct r₀ new wf.distinctNames).1 planned with
        ⟨s, found, rendered, -⟩
      rcases (mem_deletesBetween_of_distinct r₀ new wf.distinctNames).1 deleted with
        ⟨s', found', lacking⟩
      rw [found] at found'
      cases found'
      simp [rendered] at lacking
    · rintro id ⟨old, t⟩ s planned present u inserted named
      rcases (find?_updatesBetween_of_distinct r₀ new wf.distinctNames).1 planned with
        ⟨s₀, found, -⟩
      rcases (mem_insertsBetween r₀ new).1 inserted with ⟨key, rendered, absent⟩
      have called := descends.sameNames id s₀ s found present
      exact absent ⟨id, s₀, found, called.trans (named.symm.trans (keyed key u rendered))⟩

/-- A plan is up to date with the record that it was made against. -/
theorem current_between {r : PageRecord} (wf : r.WellFormed) {new : SetCollection}
    (keyed : new.Keyed) : (between (some r.toCollection) (some new)).Current r where
  fits := fits_between wf wf.idsBelow.descends keyed
  deletes_stored := by
    intro id planned
    rcases mem_deletes_between r new planned with ⟨name, -, ident⟩
    rcases r.toCollection_cases name with ⟨i, s, found, -, -, known⟩ | ⟨-, -, unknown⟩
    · rw [ident] at known
      cases known
      exact ⟨s, found⟩
    · rw [ident] at unknown
      cases unknown
  updates_stored := by
    intro id e planned
    rcases find?_updates_between r new planned with ⟨s, found, -⟩
    exact ⟨s, found⟩
  inserts_free := by
    intro t planned
    rcases mem_inserts_between r new planned with ⟨key, rendered, absent⟩
    rwa [keyed key t rendered]

/-- A look-up of a name that the first record lacks is not affected by the deletes. -/
theorem findByName?_afterDeletes {r₀ r : PageRecord} (descends : r₀.Descends r)
    {new : SetCollection} {name : String} (absent : ¬r₀.HasName name) :
    ((between (some r₀.toCollection) (some new)).afterDeletes r).findByName? name =
      r.findByName? name := by
  apply PageRecord.findByName?_congr
  intro id s named
  rw [find?_afterDeletes_eq_some, and_iff_right_iff_imp]
  intro found deleted
  rcases mem_deletes_between r₀ new deleted with ⟨key, -, ident⟩
  rcases r₀.toCollection_cases key with ⟨i, s₀, stored, -, -, known⟩ | ⟨-, -, unknown⟩
  · rw [ident] at known
    cases known
    exact absent ⟨id, s₀, stored, (descends.sameNames id s₀ s stored found).trans named⟩
  · rw [ident] at unknown
    cases unknown

/--
What a record holds once a render is merged into it that was planned against an
earlier record, told by the names of sets.
-/
structure MergesRender (r₀ : PageRecord) (new : SetCollection) (r r' : PageRecord) : Prop where
  gone : ∀ id s₀, r₀.sets.find? id = some s₀ → new.sets.find? s₀.name = none →
    r'.sets.find? id = none
  updated : ∀ id s₀ t s, r₀.sets.find? id = some s₀ → new.sets.find? s₀.name = some t →
    r.sets.find? id = some s → ∃ s', r'.sets.find? id = some s' ∧ s'.name = s₀.name ∧
      s'.revId = max s.revId new.revId ∧ ∀ row, s'.vars.find? row =
        if s₀.vars.find? row = t.vars.find? row then s.vars.find? row else t.vars.find? row
  restored : ∀ id s₀ t, r₀.sets.find? id = some s₀ → new.sets.find? s₀.name = some t →
    r.sets.find? id = none →
    ∃ fresh, r.nextSetId ≤ fresh ∧ r'.sets.find? fresh = some (t.toStored new.revId)
  replaced : ∀ name t id s, new.sets.find? name = some t → ¬r₀.HasName name →
    r.findByName? name = some (id, s) →
    ∃ s', r'.sets.find? id = some s' ∧ s'.name = name ∧ s'.vars = t.vars
  inserted : ∀ name t, new.sets.find? name = some t → ¬r₀.HasName name → ¬r.HasName name →
    ∃ fresh, r.nextSetId ≤ fresh ∧ r'.sets.find? fresh = some (t.toStored new.revId)
  kept : ∀ id s, r₀.sets.find? id = none → r.sets.find? id = some s →
    new.sets.find? s.name = none → r'.sets.find? id = some s
  fresh : ∀ id s, r.sets.find? id = none → r'.sets.find? id = some s → r.nextSetId ≤ id ∧
    ∃ t, new.sets.find? s.name = some t ∧ s = t.toStored new.revId ∧
      (¬r₀.HasName s.name ∧ ¬r.HasName s.name ∨
        ∃ i s₀, r₀.sets.find? i = some s₀ ∧ s₀.name = s.name ∧ r.sets.find? i = none)

/-- Unless there is nothing to do, applying a plan merges the render. -/
theorem mergesRender_apply {r₀ r : PageRecord} (wf : r₀.WellFormed) (descends : r₀.Descends r)
    {new : SetCollection} (keyed : new.Keyed)
    (differ : r₀.toCollection.contents ≠ new.contents) (now : Timestamp) :
    MergesRender r₀ new r
      ((between (some r₀.toCollection) (some new)).apply now r).record := by
  have merges := (fits_between wf descends keyed).merges descends.idsBelow now
  have first {name : String} (absent : ¬r₀.HasName name) :
      ((between (some r₀.toCollection) (some new)).afterDeletes r).findByName? name =
        r.findByName? name := findByName?_afterDeletes descends absent
  have hasName {name : String} (absent : ¬r₀.HasName name) :
      ¬((between (some r₀.toCollection) (some new)).afterDeletes r).HasName name ↔
        ¬r.HasName name := by
    rw [← PageRecord.findByName?_eq_none, ← PageRecord.findByName?_eq_none, first absent]
  set r' := ((between (some r₀.toCollection) (some new)).apply now r).record
  rw [between_of_differ r₀ new differ] at merges first hasName
  have updates {id : SetId} {s₀ : StoredSet} {t : VariableSet}
      (found : r₀.sets.find? id = some s₀) (rendered : new.sets.find? s₀.name = some t) :=
    (find?_updatesBetween_of_distinct r₀ new wf.distinctNames).2 ⟨s₀, found, rendered, rfl⟩
  refine ⟨?_, ?_, ?_, ?_, ?_, ?_, ?_⟩
  · intro id s₀ found lacking
    exact merges.deleted id
      ((mem_deletesBetween_of_distinct r₀ new wf.distinctNames).2 ⟨s₀, found, lacking⟩)
  · intro id s₀ t s found rendered present
    rcases merges.updated id _ t s (updates found rendered) present with ⟨s', written, named, rest⟩
    exact ⟨s', written, named.trans (descends.sameNames id s₀ s found present).symm, rest⟩
  · intro id s₀ t found rendered missing
    exact merges.restored id _ t (updates found rendered) missing
  · intro name t id s rendered absent present
    cases keyed name t rendered
    rcases merges.replaced t
      ((mem_insertsBetween r₀ new).2 ⟨_, rendered, absent⟩) id s ((first absent).trans present) with
      ⟨s', written, named, -, vars⟩
    exact ⟨s', written, named, vars⟩
  · intro name t rendered absent free
    cases keyed name t rendered
    exact merges.inserted t ((mem_insertsBetween r₀ new).2 ⟨_, rendered, absent⟩)
      ((hasName absent).2 free)
  · intro id s unknown found unrendered
    refine merges.kept id s found ?_ ?_ ?_
    · intro deleted
      rcases (mem_deletesBetween_of_distinct r₀ new wf.distinctNames).1 deleted with ⟨s₀, stored, -⟩
      rw [unknown] at stored
      cases stored
    · rw [Option.eq_none_iff_forall_ne_some]
      rintro ⟨old, t⟩ planned
      rcases (find?_updatesBetween_of_distinct r₀ new wf.distinctNames).1 planned with
        ⟨s₀, stored, -⟩
      rw [unknown] at stored
      cases stored
    · intro t planned present
      rcases (mem_insertsBetween r₀ new).1 planned with ⟨key, rendered, -⟩
      rcases PageRecord.find?_of_findByName? present with ⟨-, named⟩
      rw [named, keyed key t rendered, rendered] at unrendered
      cases unrendered
  · intro id s missing found
    rcases merges.fresh id s missing found with
      ⟨unused, ⟨t, planned, free, rfl⟩ | ⟨i, old, t, planned, gone, rfl⟩⟩
    · rcases (mem_insertsBetween r₀ new).1 planned with ⟨key, rendered, absent⟩
      cases keyed key t rendered
      exact ⟨unused, t, rendered, rfl, Or.inl ⟨absent, (hasName absent).1 free⟩⟩
    · rcases (find?_updatesBetween_of_distinct r₀ new wf.distinctNames).1 planned with
        ⟨s₀, stored, rendered, -⟩
      have named : t.name = s₀.name := keyed _ t rendered
      exact ⟨unused, t, (congrArg new.sets.find? named).trans rendered, rfl,
        Or.inr ⟨i, s₀, stored, named.symm, gone⟩⟩

theorem fits_between_option {r₀ r : PageRecord} (wf : r₀.WellFormed) (descends : r₀.Descends r)
    {new? : Option SetCollection} (keyed : ∀ c, new? = some c → c.Keyed) :
    (between (some r₀.toCollection) new?).Fits r := by
  cases new? with
  | none =>
      rw [between_none_right]
      exact fits_between wf descends nofun
  | some c => exact fits_between wf descends (keyed c rfl)

/-- Names stay different if no set has the name of a set to update that is gone. -/
theorem wellFormed_apply_between {r₀ r : PageRecord} (wf₀ : r₀.WellFormed)
    (descends : r₀.Descends r) {new : SetCollection} (keyed : new.Keyed) (wf : r.WellFormed)
    (free : ∀ id s, r₀.sets.find? id = some s → r.sets.find? id = none → ¬r.HasName s.name)
    (now : Timestamp) :
    ((between (some r₀.toCollection) (some new)).apply now r).record.WellFormed := by
  -- a set to update has the name that its identifier stood for in the first record
  have known {id : SetId} {e : VariableSet × VariableSet}
      (planned : (between (some r₀.toCollection) (some new)).updates.find? id = some e) :
      ∃ s, r₀.sets.find? id = some s ∧ e.2.name = s.name := by
    rcases find?_updates_between r₀ new planned with ⟨s, found, rendered⟩
    exact ⟨s, found, keyed _ _ rendered⟩
  refine (fits_between wf₀ descends keyed).wellFormed_apply wf ?_ ?_ now
  · intro id e planned gone
    rcases known planned with ⟨s, found, named⟩
    rw [named]
    refine ⟨free id s found gone, ?_⟩
    intro t inserted same
    rcases mem_inserts_between r₀ new inserted with ⟨key, rendered, absent⟩
    exact absent ⟨id, s, found, same.symm.trans (keyed key t rendered)⟩
  · intro i j e f planned planned' _ _ same
    rcases known planned with ⟨s, found, named⟩
    rcases known planned' with ⟨t, found', named'⟩
    exact wf₀.distinctNames i j s t found found' (named.symm.trans (same.trans named'))

/--
However many other plans have been applied since a plan was made against a
well-formed record, applying it merges it three ways into what is stored then.
-/
theorem merges_after_others {r₀ : PageRecord} (wf : r₀.WellFormed)
    {new? : Option SetCollection} (keyed : ∀ c, new? = some c → c.Keyed)
    (others : List (Plan × Timestamp)) (now : Timestamp) :
    let p := between (some r₀.toCollection) new?
    let r := others.foldl (fun r e => (e.1.apply e.2 r).record) r₀
    p.Merges r (p.apply now r).record := by
  intro p r
  have descends : r₀.Descends r := wf.idsBelow.descends.foldl wf.idsBelow others
  exact (fits_between_option wf descends keyed).merges descends.idsBelow now

/-- A record with two sets of one variable each. -/
def twoSets : PageRecord where
  pageId := 5
  sets := .ofList [
    (1, { name := "a", revId := 1, vars := .ofList [("x", .text "1")] }),
    (2, { name := "b", revId := 1, vars := .ofList [("x", .text "1")] })]
  nextSetId := 3

/-- A render that changes the first of two sets, lacks the second and brings a third. -/
def changedAndNew : SetCollection where
  pageId := 5
  revId := 2
  sets := .ofList [
    ("a", { name := "a", vars := .ofList [("x", .text "2")] }),
    ("c", { name := "c", vars := .ofList [("x", .text "2")] })]

/-- A render against which the first of two sets is deleted. -/
def secondOnly : SetCollection where
  pageId := 5
  revId := 3
  sets := .ofList [("b", { name := "b", vars := .ofList [("x", .text "1")] })]

/-- The set to update has been deleted meanwhile, so it is stored anew behind the new one. -/
theorem merges_after_deletion :
    let now : Timestamp := ⟨2024, 1, 1, 0, 0, 0, 0⟩
    let p := between (some twoSets.toCollection) (some changedAndNew)
    let others := [(between (some twoSets.toCollection) (some secondOnly), now)]
    let r := others.foldl (fun r e => (e.1.apply e.2 r).record) twoSets
    twoSets.WellFormed ∧ (∀ c, some changedAndNew = some c → c.Keyed) ∧
      p.Merges r (p.apply now r).record ∧
      (p.apply now r).record.sets.toList.map (fun e => (e.1, e.2.name)) =
        [(3, "c"), (4, "a")] := by
  intro now p others r
  have wf : twoSets.WellFormed := by decide
  have keyed : ∀ c, some changedAndNew = some c → c.Keyed := by
    rintro c ⟨⟩
    decide
  exact ⟨wf, keyed, merges_after_others wf keyed others now, by decide⟩

end Plan

end TemplateVars
