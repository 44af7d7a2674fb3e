import TemplateVars.Proofs.Page.WellFormed

/-!
# Where a plan puts its sets

Once its deletes are done, a plan writes each of its sets either over a stored
set or under a new identifier. Which of the two it is could depend on what was
written before. It does not if the plan fits the record: no two inserts share a
name, all identifiers to update have been given, and no set to insert has the
name of a set to update. All places can then be read off the record at once,
and the writes do not get in each other's way.
-/

namespace TemplateVars

/-- A set to write into a record, together with the place where it goes. -/
structure Placement where
  /-- The stored set to write over and the form that its rows are compared with. -/
  over? : Option (SetId × VariableSet)
  set : VariableSet

namespace PageRecord

/-- The record with a set written to its place. -/
def place (rev : RevId) (r : PageRecord) (w : Placement) : PageRecord :=
  match w.over? with
  | some (id, old) => r.rewrite rev id old w.set
  | none => r.storeNew (w.set.toStored rev)

/-- A set to insert goes over the stored set of its name. -/
def placeByName (r : PageRecord) (t : VariableSet) : Placement where
  over? := (r.findByName? t.name).map fun e => (e.1, asVariableSet e.1 e.2)
  set := t

/-- A set to update goes over the stored set of its identifier. -/
def placeById (r : PageRecord) (e : SetId × VariableSet × VariableSet) : Placement where
  over? := if r.sets.contains e.1 then some (e.1, e.2.1) else none
  set := e.2.2

theorem insertSet_eq_place (r : PageRecord) (rev : RevId) (t : VariableSet) :
    r.insertSet rev t = r.place rev (r.placeByName t) := by
  cases found : r.findByName? t.name <;> simp [insertSet, place, placeByName, found]

theorem updateSet_eq_place (r : PageRecord) (rev : RevId)
    (e : SetId × VariableSet × VariableSet) :
    r.updateSet rev e.1 e.2.1 e.2.2 = r.place rev (r.placeById e) := by
  cases found : r.sets.contains e.1 <;> simp [updateSet, place, placeById, found]

theorem over?_placeByName {r : PageRecord} {t old : VariableSet} {id : SetId} :
    (r.placeByName t).over? = some (id, old) ↔
      ∃ s, r.findByName? t.name = some (id, s) ∧ old = asVariableSet id s := by
  simp only [placeByName, Option.map_eq_some_iff, Prod.mk.injEq, Prod.exists]
  constructor
  · rintro ⟨i, s, found, rfl, rfl⟩
    exact ⟨s, found, rfl⟩
  · rintro ⟨s, found, rfl⟩
    exact ⟨id, s, found, rfl, rfl⟩

theorem over?_placeByName_eq_none {r : PageRecord} {t : VariableSet} :
    (r.placeByName t).over? = none ↔ ¬r.HasName t.name := by
  rw [placeByName, Option.map_eq_none_iff, findByName?_eq_none]

theorem over?_placeById {r : PageRecord} {e : SetId × VariableSet × VariableSet} {id : SetId}
    {old : VariableSet} :
    (r.placeById e).over? = some (id, old) ↔
      (∃ s, r.sets.find? e.1 = some s) ∧ e.1 = id ∧ e.2.1 = old := by
  rw [← SortedMap.mem_keys_iff, ← SortedMap.contains_iff]
  simp [placeById]

theorem over?_placeById_eq_none {r : PageRecord} {e : SetId × VariableSet × VariableSet} :
    (r.placeById e).over? = none ↔ r.sets.find? e.1 = none := by
  cases found : r.sets.find? e.1 <;> simp [placeById, SortedMap.contains, found]

theorem IdsBelow.place {r : PageRecord} (below : r.IdsBelow) (rev : RevId) (w : Placement) :
    (r.place rev w).IdsBelow := by
  unfold PageRecord.place
  split
  · exact below.rewrite rev _ _ w.set
  · exact below.storeNew _

/-! ### Writing sets to their places -/

/-- Every set goes to a place of its own, and a set to write over is there. -/
structure Fit (r : PageRecord) (writes : List Placement) : Prop where
  apart : writes.Pairwise fun w v => ∀ id old old',
    w.over? = some (id, old) → v.over? ≠ some (id, old')
  stored : ∀ w ∈ writes, ∀ id old, w.over? = some (id, old) → ∃ s, r.sets.find? id = some s

/-- What a record holds once sets are written to their places. -/
structure Takes (rev : RevId) (writes : List Placement) (r r' : PageRecord) : Prop where
  idsBelow : r'.IdsBelow
  nextSetId_eq : r'.nextSetId = r.nextSetId + writes.countP (·.over?.isNone)
  rewritten : ∀ w ∈ writes, ∀ id old s, w.over? = some (id, old) → r.sets.find? id = some s →
    r'.sets.find? id = some (s.rewritten rev old w.set)
  stored : ∀ w ∈ writes, w.over? = none →
    ∃ id, r.nextSetId ≤ id ∧ r'.sets.find? id = some (w.set.toStored rev)
  kept : ∀ id s, r.sets.find? id = some s → (∀ w ∈ writes, ∀ old, w.over? ≠ some (id, old)) →
    r'.sets.find? id = some s
  fresh : ∀ id s, r.sets.find? id = none → r'.sets.find? id = some s →
    r.nextSetId ≤ id ∧ ∃ w ∈ writes, w.over? = none ∧ s = w.set.toStored rev

theorem takes_place (rev : RevId) {w : Placement} {r : PageRecord} (below : r.IdsBelow)
    (fit : r.Fit [w]) : Takes rev [w] r (r.place rev w) := by
  cases target : w.over? with
  | some e =>
      rcases e with ⟨i, form⟩
      rcases fit.stored w List.mem_cons_self i form target with ⟨u, present⟩
      have lookup (id : SetId) : (r.place rev w).sets.find? id =
          if id = i then some (u.rewritten rev form w.set) else r.sets.find? id := by
        simp [place, target, find?_rewrite, present]
      refine ⟨below.place rev w, by simp [place, target], ?_, ?_, ?_, ?_⟩
      · intro v listed id old s occupied found
        cases List.mem_singleton.1 listed
        rw [target] at occupied
        cases occupied
        rw [present] at found
        cases found
        simp [lookup]
      · intro v listed anew
        cases List.mem_singleton.1 listed
        simp [target] at anew
      · intro id s found spared
        have other : id ≠ i := by
          rintro rfl
          exact spared w List.mem_cons_self form target
        simp [lookup, other, found]
      · intro id s absent found
        have other : id ≠ i := by
          rintro rfl
          simp [present] at absent
        simp [lookup, other, absent] at found
  | none =>
      have placed : r.place rev w = r.storeNew (w.set.toStored rev) := by simp [place, target]
      rw [placed]
      refine ⟨below.storeNew _, by simp [storeNew, target], ?_, ?_, ?_, ?_⟩
      · intro v listed id old s occupied
        cases List.mem_singleton.1 listed
        simp [target] at occupied
      · intro v listed anew
        cases List.mem_singleton.1 listed
        exact ⟨r.nextSetId, Nat.le_refl _, by simp [find?_storeNew]⟩
      · intro id s found spared
        exact find?_storeNew_of_stored below found _
      · intro id s absent found
        rw [find?_storeNew] at found
        split at found
        · rename_i same
          cases found
          exact ⟨Nat.le_of_eq same.symm, w, List.mem_cons_self, target, rfl⟩
        · simp [absent] at found

theorem Takes.nextSetId_le {rev : RevId} {writes : List Placement} {r r' : PageRecord}
    (takes : Takes rev writes r r') : r.nextSetId ≤ r'.nextSetId := by
  have next := takes.nextSetId_eq
  lia

/-- Sets that go to different places can be written one after another. -/
theorem Takes.cons {rev : RevId} {w : Placement} {writes : List Placement}
    {r r₁ r₂ : PageRecord} (first : Takes rev [w] r r₁) (rest : Takes rev writes r₁ r₂)
    (below : r.IdsBelow) (fit : r.Fit (w :: writes)) : Takes rev (w :: writes) r r₂ := by
  have least := first.nextSetId_le
  have apart := (List.pairwise_cons.1 fit.apart).1
  -- nothing later goes over an identifier that was not in use before
  have spared {id : SetId} (unused : r.nextSetId ≤ id) :
      ∀ v ∈ writes, ∀ old, v.over? ≠ some (id, old) := by
    intro v listed old occupied
    rcases fit.stored v (List.mem_cons_of_mem _ listed) id old occupied with ⟨s, found⟩
    rw [below.find?_eq_none unused] at found
    cases found
  refine ⟨rest.idsBelow, ?_, ?_, ?_, ?_, ?_⟩
  · have next := first.nextSetId_eq
    rw [rest.nextSetId_eq, next, List.countP_cons, List.countP_cons, List.countP_nil]
    lia
  · intro v listed id old s occupied found
    rcases List.mem_cons.1 listed with rfl | listed
    · have written := first.rewritten v List.mem_cons_self id old s occupied found
      exact rest.kept id _ written fun x later form => apart x later id old form occupied
    · refine rest.rewritten v listed id old s occupied (first.kept id s found ?_)
      intro x only form target
      cases List.mem_singleton.1 only
      exact apart v listed id form old target occupied
  · intro v listed anew
    rcases List.mem_cons.1 listed with rfl | listed
    · rcases first.stored v List.mem_cons_self anew with ⟨id, unused, found⟩
      exact ⟨id, unused, rest.kept id _ found (spared unused)⟩
    · rcases rest.stored v listed anew with ⟨id, unused, found⟩
      exact ⟨id, by lia, found⟩
  · intro id s found untouched
    refine rest.kept id s (first.kept id s found ?_) fun v listed =>
      untouched v (List.mem_cons_of_mem _ listed)
    intro x only
    cases List.mem_singleton.1 only
    exact untouched w List.mem_cons_self
  · intro id s absent found
    cases between : r₁.sets.find? id with
    | none =>
        rcases rest.fresh id s between found with ⟨unused, v, listed, anew, same⟩
        exact ⟨by lia, v, List.mem_cons_of_mem _ listed, anew, same⟩
    | some u =>
        rcases first.fresh id u absent between with ⟨unused, v, only, anew, rfl⟩
        have kept := rest.kept id _ between (spared unused)
        rw [found] at kept
        cases kept
        cases List.mem_singleton.1 only
        exact ⟨unused, w, List.mem_cons_self, anew, rfl⟩

theorem Takes.fit {rev : RevId} {w : Placement} {writes : List Placement} {r r₁ : PageRecord}
    (first : Takes rev [w] r r₁) (fit : r.Fit (w :: writes)) : r₁.Fit writes where
  apart := (List.pairwise_cons.1 fit.apart).2
  stored := by
    intro v listed id old occupied
    rcases fit.stored v (List.mem_cons_of_mem _ listed) id old occupied with ⟨s, found⟩
    refine ⟨s, first.kept id s found ?_⟩
    intro x only form target
    cases List.mem_singleton.1 only
    exact (List.pairwise_cons.1 fit.apart).1 v listed id form old target occupied

/-- Sets written to places of their own all get there, and nothing else changes. -/
theorem takes_foldl_place (rev : RevId) {writes : List Placement} {r : PageRecord}
    (below : r.IdsBelow) (fit : r.Fit writes) :
    Takes rev writes r (writes.foldl (place rev) r) := by
  induction writes generalizing r with
  | nil =>
      refine ⟨below, rfl, nofun, nofun, fun _ _ found _ => found, ?_⟩
      intro id s absent found
      simp [absent] at found
  | cons w writes ih =>
      have fitFirst : r.Fit [w] :=
        ⟨List.pairwise_singleton _ _, fun v only =>
          fit.stored v (List.mem_cons.2 (Or.inl (List.mem_singleton.1 only)))⟩
      have first := takes_place rev below fitFirst
      exact first.cons (ih first.idsBelow (first.fit fit)) below fit

/-- Names stay different if the sets stored anew have free names that differ. -/
theorem WellFormed.foldl_place (rev : RevId) {writes : List Placement} {r : PageRecord}
    (wf : r.WellFormed) (free : ∀ w ∈ writes, w.over? = none → ¬r.HasName w.set.name)
    (differ : writes.Pairwise fun w v =>
      w.over? = none → v.over? = none → w.set.name ≠ v.set.name) :
    (writes.foldl (PageRecord.place rev) r).WellFormed := by
  induction writes generalizing r with
  | nil => exact wf
  | cons w writes ih =>
      rw [List.pairwise_cons] at differ
      rw [List.foldl_cons]
      cases target : w.over? with
      | some e =>
          have placed : r.place rev w = r.rewrite rev e.1 e.2 w.set := by
            simp [PageRecord.place, target]
          rw [placed]
          refine ih (wf.rewrite ..) (fun v listed anew => ?_) differ.2
          rw [hasName_rewrite]
          exact free v (List.mem_cons_of_mem _ listed) anew
      | none =>
          have placed : r.place rev w = r.storeNew (w.set.toStored rev) := by
            simp [PageRecord.place, target]
          rw [placed]
          refine ih (wf.storeNew (free w List.mem_cons_self target)) (fun v listed anew => ?_)
            differ.2
          rw [hasName_storeNew wf.idsBelow, not_or]
          exact ⟨differ.1 v listed target anew, free v (List.mem_cons_of_mem _ listed) anew⟩

/-! ### Places that do not depend on what is written before -/

theorem nextSetId_le_place (r : PageRecord) (rev : RevId) (w : Placement) :
    r.nextSetId ≤ (r.place rev w).nextSetId := by
  unfold place
  split
  · exact Nat.le_of_eq (nextSetId_rewrite ..).symm
  · exact Nat.le_succ _

theorem contains_place {r : PageRecord} {id : SetId} (given : id < r.nextSetId) (rev : RevId)
    (w : Placement) : (r.place rev w).sets.contains id = r.sets.contains id := by
  unfold place
  split
  · rw [SortedMap.contains, SortedMap.contains, find?_rewrite]
    split <;> simp_all
  · have older : id ≠ r.nextSetId := Nat.ne_of_lt given
    rw [SortedMap.contains, SortedMap.contains, find?_storeNew, if_neg older]

theorem contains_foldl_place (rev : RevId) (writes : List Placement) {r : PageRecord} {id : SetId}
    (given : id < r.nextSetId) :
    (writes.foldl (place rev) r).sets.contains id = r.sets.contains id ∧
      r.nextSetId ≤ (writes.foldl (place rev) r).nextSetId := by
  induction writes generalizing r with
  | nil => exact ⟨rfl, Nat.le_refl _⟩
  | cons w writes ih =>
      have more := r.nextSetId_le_place rev w
      have ⟨contained, least⟩ := ih (Nat.lt_of_lt_of_le given more)
      exact ⟨contained.trans (contains_place given rev w), Nat.le_trans more least⟩

theorem findByName?_insertSet_of_ne {r : PageRecord} (below : r.IdsBelow) (rev : RevId)
    {t : VariableSet} {name : String} (other : name ≠ t.name) :
    (r.insertSet rev t).findByName? name = r.findByName? name := by
  apply findByName?_congr
  intro id s named
  cases found : r.findByName? t.name with
  | none =>
      rw [insertSet_of_absent (findByName?_eq_none.1 found), find?_storeNew]
      split
      · rename_i same
        constructor
        · intro latest
          cases latest
          exact absurd named.symm other
        · intro stored
          rw [below.find?_eq_none (Nat.le_of_eq same.symm)] at stored
          cases stored
      · rfl
  | some e =>
      rcases e with ⟨i, u⟩
      have ⟨stored, called⟩ := find?_of_findByName? found
      simp only [insertSet, found, find?_rewrite, stored, Option.map_some]
      split
      · rename_i same
        subst same
        rw [stored]
        have differ : ∀ v : StoredSet, v.name = u.name → some v ≠ some s := by
          rintro v alike ⟨⟩
          exact other (named.symm.trans (alike.trans called))
        simp only [differ _ rfl, differ _ (StoredSet.name_rewritten ..)]
      · rfl

theorem foldl_insertSet_eq_place (rev : RevId) {inserts : List VariableSet} {r q : PageRecord}
    (below : q.IdsBelow) (nodup : (inserts.map (·.name)).Nodup)
    (same : ∀ t ∈ inserts, q.findByName? t.name = r.findByName? t.name) :
    inserts.foldl (·.insertSet rev ·) q =
      (inserts.map r.placeByName).foldl (place rev) q := by
  induction inserts generalizing q with
  | nil => rfl
  | cons t inserts ih =>
      simp only [List.map_cons, List.nodup_cons, List.mem_map, not_exists, not_and] at nodup
      have place_eq : q.placeByName t = r.placeByName t := by
        rw [placeByName, placeByName, same t List.mem_cons_self]
      have sameRest : ∀ u ∈ inserts,
          (q.insertSet rev t).findByName? u.name = r.findByName? u.name := by
        intro u listed
        rw [findByName?_insertSet_of_ne below rev (nodup.1 u listed)]
        exact same u (List.mem_cons_of_mem _ listed)
      have belowRest : (q.insertSet rev t).IdsBelow := by
        rw [insertSet_eq_place]
        exact below.place rev _
      rw [List.foldl_cons, ih belowRest nodup.2 sameRest, List.map_cons, List.foldl_cons,
        insertSet_eq_place, place_eq]

theorem foldl_updateSet_eq_place (rev : RevId)
    {updates : List (SetId × VariableSet × VariableSet)} {r q : PageRecord}
    (given : ∀ e ∈ updates, e.1 < q.nextSetId)
    (same : ∀ e ∈ updates, q.sets.contains e.1 = r.sets.contains e.1) :
    updates.foldl (fun r e => r.updateSet rev e.1 e.2.1 e.2.2) q =
      (updates.map r.placeById).foldl (place rev) q := by
  induction updates generalizing q with
  | nil => rfl
  | cons e updates ih =>
      have place_eq : q.placeById e = r.placeById e := by
        rw [placeById, placeById, same e List.mem_cons_self]
      rw [List.foldl_cons, List.map_cons, List.foldl_cons, updateSet_eq_place, place_eq]
      apply ih
      · intro u listed
        exact Nat.lt_of_lt_of_le (given u (List.mem_cons_of_mem _ listed))
          (q.nextSetId_le_place rev _)
      · intro u listed
        rw [contains_place (given u (List.mem_cons_of_mem _ listed))]
        exact same u (List.mem_cons_of_mem _ listed)

end PageRecord

namespace Plan

variable (p : Plan)

/-- A plan whose places can all be read off a record. -/
structure Fits (r : PageRecord) : Prop where
  inserts_nodup : (p.inserts.map (·.name)).Nodup
  deletes_below : ∀ id ∈ p.deletes.keys, id < r.nextSetId
  updates_below : ∀ id e, p.updates.find? id = some e → id < r.nextSetId
  spared : ∀ id e, p.updates.find? id = some e → id ∉ p.deletes.keys
  apart : ∀ id e s, p.updates.find? id = some e → r.sets.find? id = some s →
    ∀ t ∈ p.inserts, t.name ≠ s.name

/-- The places of the sets of a plan in the record once the deletes are done. -/
def placements (r : PageRecord) : List Placement :=
  p.inserts.map (p.afterDeletes r).placeByName ++
    p.updates.toList.map (p.afterDeletes r).placeById

variable {p}

theorem find?_afterDeletes_eq_some {r : PageRecord} {id : SetId} {s : StoredSet} :
    (p.afterDeletes r).sets.find? id = some s ↔
      id ∉ p.deletes.keys ∧ r.sets.find? id = some s := by
  rw [afterDeletes, PageRecord.find?_without]
  split <;> simp_all

theorem Fits.fit {r : PageRecord} (fits : p.Fits r) :
    (p.afterDeletes r).Fit (p.placements r) where
  apart := by
    rw [placements, List.pairwise_append]
    refine ⟨?_, ?_, ?_⟩
    · refine List.pairwise_map.2 ((List.pairwise_map.1 fits.inserts_nodup).imp ?_)
      intro t u differ id old old' first second
      rcases PageRecord.over?_placeByName.1 first with ⟨s, found, -⟩
      rcases PageRecord.over?_placeByName.1 second with ⟨s', found', -⟩
      have ⟨stored, named⟩ := PageRecord.find?_of_findByName? found
      have ⟨stored', named'⟩ := PageRecord.find?_of_findByName? found'
      rw [stored] at stored'
      cases stored'
      exact differ (named.symm.trans named')
    · refine List.pairwise_map.2 ((List.pairwise_map.1 p.updates.keys_nodup).imp ?_)
      intro e e' differ id old old' first second
      rcases PageRecord.over?_placeById.1 first with ⟨-, same, -⟩
      rcases PageRecord.over?_placeById.1 second with ⟨-, same', -⟩
      exact differ (same.trans same'.symm)
    · -- an insert goes over a set of its name, which no set to update has
      intro w inserted v updated id old old' first second
      rcases List.mem_map.1 inserted with ⟨t, planned, rfl⟩
      rcases List.mem_map.1 updated with ⟨e, listed, rfl⟩
      rcases PageRecord.over?_placeByName.1 first with ⟨s, found, -⟩
      rcases PageRecord.over?_placeById.1 second with ⟨-, rfl, -⟩
      have ⟨stored, named⟩ := PageRecord.find?_of_findByName? found
      exact fits.apart e.1 e.2 s (SortedMap.find?_eq_some.2 listed)
        (find?_afterDeletes_eq_some.1 stored).2 t planned named.symm
  stored := by
    intro w listed id old occupied
    rcases List.mem_append.1 listed with inserted | updated
    · rcases List.mem_map.1 inserted with ⟨t, -, rfl⟩
      rcases PageRecord.over?_placeByName.1 occupied with ⟨s, found, -⟩
      exact ⟨s, (PageRecord.find?_of_findByName? found).1⟩
    · rcases List.mem_map.1 updated with ⟨e, -, rfl⟩
      rcases PageRecord.over?_placeById.1 occupied with ⟨present, rfl, -⟩
      exact present

theorem Fits.afterUpdates_eq {r : PageRecord} (fits : p.Fits r) (below : r.IdsBelow) :
    p.afterUpdates r =
      (p.placements r).foldl (PageRecord.place p.newRevId) (p.afterDeletes r) := by
  have inserted : p.afterInserts r =
      (p.inserts.map (p.afterDeletes r).placeByName).foldl (PageRecord.place p.newRevId)
        (p.afterDeletes r) :=
    PageRecord.foldl_insertSet_eq_place p.newRevId (below.without _) fits.inserts_nodup
      fun _ _ => rfl
  have given : ∀ e ∈ p.updates.toList, e.1 < (p.afterDeletes r).nextSetId :=
    fun e listed => fits.updates_below e.1 e.2 (SortedMap.find?_eq_some.2 listed)
  rw [afterUpdates, withUpdates, placements, List.foldl_append, ← inserted]
  apply PageRecord.foldl_updateSet_eq_place
  · intro e listed
    rw [inserted]
    exact Nat.lt_of_lt_of_le (given e listed)
      (PageRecord.contains_foldl_place _ _ (given e listed)).2
  · intro e listed
    rw [inserted]
    exact (PageRecord.contains_foldl_place _ _ (given e listed)).1

/-- Applied to a record that it fits, a plan puts each of its sets where it belongs. -/
theorem Fits.takes {r : PageRecord} (fits : p.Fits r) (below : r.IdsBelow) :
    PageRecord.Takes p.newRevId (p.placements r) (p.afterDeletes r) (p.afterUpdates r) := by
  rw [fits.afterUpdates_eq below]
  exact PageRecord.takes_foldl_place p.newRevId (below.without _) fits.fit

end Plan

end TemplateVars
