import Mathlib.Algebra.GroupWithZero.Nat
import Mathlib.Order.Bounds.Basic
import TemplateVars.Proofs.Page.Merge
import TemplateVars.Proofs.Page.Rows

/-!
# Independent plans

Several plans may be made against the same record and then be applied one after
another. As long as none of them deletes a set, no two insert a set of the same
name and no two change the same row, none is lost: the record gathers all of
them. What it holds then can be told without mentioning the order, except for
the identifiers of the new sets, so the plans may be applied in any order.
-/

namespace TemplateVars

namespace RowDiff

/-- The names of all rows that are written. -/
def rows (d : RowDiff) : List String := d.inserts.keys ++ d.updates.keys ++ d.deletes.keys

theorem mem_rows_between {old new : VariableSet} {name : String} :
    name ∈ (between old new).rows ↔ old.vars.find? name ≠ new.vars.find? name := by
  rw [rows, List.mem_append, List.mem_append, mem_deletes_between, SortedMap.mem_keys_iff,
    SortedMap.mem_keys_iff, find?_inserts_between, find?_updates_between]
  cases old.vars.find? name with
  | none => cases new.vars.find? name <;> simp
  | some v =>
      cases new.vars.find? name with
      | none => simp
      | some w => by_cases same : v = w <;> simp [same]

end RowDiff

namespace Plan

def insertedNames (p : Plan) : List String := p.inserts.map (·.name)

/-- The rows of stored sets that change. -/
def changedRows (p : Plan) : List (SetId × String) :=
  p.updates.toList.flatMap fun e => (RowDiff.between e.2.1 e.2.2).rows.map fun row => (e.1, row)

theorem mem_changedRows {p : Plan} {id : SetId} {row : String} :
    (id, row) ∈ p.changedRows ↔
      ∃ e, p.updates.find? id = some e ∧ e.1.vars.find? row ≠ e.2.vars.find? row := by
  simp only [changedRows, List.mem_flatMap, List.mem_map, RowDiff.mem_rows_between,
    SortedMap.find?_eq_some]
  constructor
  · rintro ⟨e, listed, _, differ, same⟩
    cases same
    exact ⟨e.2, listed, differ⟩
  · rintro ⟨e, listed, differ⟩
    exact ⟨(id, e), listed, row, differ, rfl⟩

/-- No set is inserted by both of two plans, and no row is changed by both. -/
structure Independent (p q : Plan) : Prop where
  inserts : ∀ name ∈ p.insertedNames, name ∉ q.insertedNames
  rows : ∀ row ∈ p.changedRows, row ∉ q.changedRows

instance (p q : Plan) : Decidable (p.Independent q) :=
  decidable_of_iff
    ((∀ name ∈ p.insertedNames, name ∉ q.insertedNames) ∧
      ∀ row ∈ p.changedRows, row ∉ q.changedRows)
    ⟨fun both => ⟨both.1, both.2⟩, fun apart => ⟨apart.inserts, apart.rows⟩⟩

theorem Independent.symm {p q : Plan} (apart : p.Independent q) : q.Independent p where
  inserts := fun name second first => apart.inserts name first second
  rows := fun row second first => apart.rows row first second

/-! ### One set under several plans -/

/-- What a stored set has become once several plans are applied. -/
structure GathersSet (plans : List Plan) (id : SetId) (s s' : StoredSet) : Prop where
  name_eq : s'.name = s.name
  newest : IsGreatest
    (insert s.revId {rev | ∃ p ∈ plans, p.updates.contains id = true ∧ p.newRevId = rev}) s'.revId
  changed : ∀ p ∈ plans, ∀ e row, p.updates.find? id = some e →
    e.1.vars.find? row ≠ e.2.vars.find? row → s'.vars.find? row = e.2.vars.find? row
  unchanged : ∀ row, (∀ p ∈ plans, (id, row) ∉ p.changedRows) →
    s'.vars.find? row = s.vars.find? row

variable {plans : List Plan} {id : SetId} {s s₁ s₂ : StoredSet}

theorem GathersSet.nil : GathersSet [] id s s where
  name_eq := rfl
  newest := by simp
  changed := nofun
  unchanged := fun _ _ => rfl

theorem GathersSet.unique (first : GathersSet plans id s s₁) (second : GathersSet plans id s s₂) :
    s₁ = s₂ := by
  have name : s₁.name = s₂.name := first.name_eq.trans second.name_eq.symm
  have rev : s₁.revId = s₂.revId := first.newest.unique second.newest
  have vars : s₁.vars = s₂.vars := by
    apply SortedMap.ext_find?
    intro row
    by_cases written : ∃ p ∈ plans, (id, row) ∈ p.changedRows
    · rcases written with ⟨p, listed, changes⟩
      rcases mem_changedRows.1 changes with ⟨e, planned, differ⟩
      rw [first.changed p listed e row planned differ, second.changed p listed e row planned differ]
    · have unwritten : ∀ p ∈ plans, (id, row) ∉ p.changedRows := by
        intro p listed changes
        exact written ⟨p, listed, changes⟩
      rw [first.unchanged row unwritten, second.unchanged row unwritten]
  cases s₁
  cases s₂
  simp_all

/-- A plan that does not update a set leaves what it has gathered. -/
theorem GathersSet.cons_of_absent {p : Plan} (gathered : GathersSet plans id s s₁)
    (absent : p.updates.find? id = none) : GathersSet (p :: plans) id s s₁ where
  name_eq := gathered.name_eq
  newest := by
    have none : p.updates.contains id = false := by simp [SortedMap.contains, absent]
    simpa [none] using gathered.newest
  changed := by
    intro q listed e row planned
    rcases List.mem_cons.1 listed with rfl | listed
    · rw [absent] at planned
      cases planned
    · exact gathered.changed q listed e row planned
  unchanged := by
    intro row untouched
    apply gathered.unchanged
    exact fun q listed => untouched q (List.mem_cons_of_mem _ listed)

/-- A plan that updates a set adds its rows, which no other plan has changed. -/
theorem GathersSet.cons {p : Plan} {old t : VariableSet} (gathered : GathersSet plans id s s₁)
    (apart : ∀ q ∈ plans, q.Independent p) (planned : p.updates.find? id = some (old, t))
    (named : s₂.name = s₁.name) (rev : s₂.revId = max s₁.revId p.newRevId)
    (rows : ∀ row, s₂.vars.find? row =
      if old.vars.find? row = t.vars.find? row then s₁.vars.find? row else t.vars.find? row) :
    GathersSet (p :: plans) id s s₂ where
  name_eq := named.trans gathered.name_eq
  newest := by
    have updates : p.updates.contains id = true := by simp [SortedMap.contains, planned]
    have more : {n | ∃ q ∈ p :: plans, q.updates.contains id = true ∧ q.newRevId = n} =
        insert p.newRevId {n | ∃ q ∈ plans, q.updates.contains id = true ∧ q.newRevId = n} := by
      ext n
      simp [updates, eq_comm (a := n)]
    rw [more, Set.insert_comm, rev, max_comm]
    exact gathered.newest.insert p.newRevId
  changed := by
    intro q listed e row planned' differ
    rw [rows]
    rcases List.mem_cons.1 listed with rfl | listed
    · rw [planned] at planned'
      cases planned'
      rw [if_neg differ]
    · have kept : old.vars.find? row = t.vars.find? row := by
        by_contra changes
        exact (apart q listed).rows (id, row) (mem_changedRows.2 ⟨e, planned', differ⟩)
          (mem_changedRows.2 ⟨_, planned, changes⟩)
      rw [if_pos kept]
      exact gathered.changed q listed e row planned' differ
  unchanged := by
    intro row untouched
    have kept : old.vars.find? row = t.vars.find? row := by
      by_contra changes
      exact untouched p List.mem_cons_self (mem_changedRows.2 ⟨_, planned, changes⟩)
    rw [rows, if_pos kept]
    apply gathered.unchanged
    exact fun q listed => untouched q (List.mem_cons_of_mem _ listed)

/-! ### A record under several plans -/

/-- What a record has become once several plans are applied, whatever their order was. -/
structure Gathers (plans : List Plan) (r r' : PageRecord) : Prop where
  wellFormed : r'.WellFormed
  nextSetId_eq : r'.nextSetId = r.nextSetId + (plans.map (·.inserts.length)).sum
  stored : ∀ id s, r.sets.find? id = some s →
    ∃ s', r'.sets.find? id = some s' ∧ GathersSet plans id s s'
  inserted : ∀ p ∈ plans, ∀ t ∈ p.inserts,
    ∃ id, r.nextSetId ≤ id ∧ r'.sets.find? id = some (t.toStored p.newRevId)
  fresh : ∀ id s, r.sets.find? id = none → r'.sets.find? id = some s →
    ∃ p ∈ plans, ∃ t ∈ p.inserts, s = t.toStored p.newRevId

variable {r r₁ r₂ : PageRecord}

theorem Gathers.nil (wf : r.WellFormed) : Gathers [] r r where
  wellFormed := wf
  nextSetId_eq := rfl
  stored := fun _ s found => ⟨s, found, .nil⟩
  inserted := nofun
  fresh := by
    intro id s absent found
    simp [absent] at found

theorem Gathers.saved?_of_saved? (first : Gathers plans r r₁) (second : Gathers plans r r₂)
    {name : String} {saved : SortedMap String Variable × RevId}
    (found : r₁.saved? name = some saved) : r₂.saved? name = some saved := by
  rcases saved with ⟨vars, rev⟩
  rcases (PageRecord.saved?_eq_some first.wellFormed.distinctNames).1 found with ⟨id, stored⟩
  apply (PageRecord.saved?_eq_some second.wellFormed.distinctNames).2
  -- the identifiers of new sets depend on the order, so these are found by what was inserted
  cases before : r.sets.find? id with
  | none =>
      rcases first.fresh id _ before stored with ⟨p, listed, t, planned, same⟩
      rcases second.inserted p listed t planned with ⟨i, -, stored'⟩
      exact ⟨i, same ▸ stored'⟩
  | some s =>
      rcases first.stored id s before with ⟨s₁, stored₁, gathered₁⟩
      rcases second.stored id s before with ⟨s₂, stored₂, gathered₂⟩
      rw [stored] at stored₁
      cases stored₁
      exact ⟨id, gathered₁.unique gathered₂ ▸ stored₂⟩

theorem Gathers.saved?_eq (first : Gathers plans r r₁) (second : Gathers plans r r₂)
    (name : String) : r₁.saved? name = r₂.saved? name := by
  apply Option.ext
  intro saved
  exact ⟨first.saved?_of_saved? second, second.saved?_of_saved? first⟩

theorem Gathers.perm {plans' : List Plan} (perm : plans.Perm plans')
    (gathered : Gathers plans r r₁) : Gathers plans' r r₁ where
  wellFormed := gathered.wellFormed
  nextSetId_eq := by rw [gathered.nextSetId_eq, (perm.map _).sum_nat]
  stored := by
    intro id s found
    rcases gathered.stored id s found with ⟨s', stored, gathers⟩
    refine ⟨s', stored, ⟨gathers.name_eq, ?_, ?_, ?_⟩⟩
    · simpa only [perm.mem_iff] using gathers.newest
    · exact fun p listed => gathers.changed p (perm.mem_iff.2 listed)
    · exact fun row untouched => gathers.unchanged row fun p listed =>
        untouched p (perm.mem_iff.1 listed)
  inserted := fun p listed => gathered.inserted p (perm.mem_iff.2 listed)
  fresh := by
    intro id s absent found
    rcases gathered.fresh id s absent found with ⟨p, listed, brought⟩
    exact ⟨p, perm.mem_iff.1 listed, brought⟩

/-- A plan is still up to date after plans that it is independent of. -/
theorem Gathers.current {p : Plan} (gathered : Gathers plans r r₁) (current : p.Current r)
    (deletes : p.deletes.keys = []) (apart : ∀ q ∈ plans, q.Independent p) : p.Current r₁ := by
  have least : r.nextSetId ≤ r₁.nextSetId := by
    rw [gathered.nextSetId_eq]
    exact Nat.le_add_right _ _
  have none {id : SetId} : id ∉ p.deletes.keys := by simp [deletes]
  constructor
  · refine ⟨current.fits.inserts_nodup, fun id planned => absurd planned none, ?_,
      fun id e _ => none, ?_⟩
    · intro id e planned
      exact Nat.lt_of_lt_of_le (current.fits.updates_below id e planned) least
    · intro id e u planned found t inserted
      rcases current.updates_stored id e planned with ⟨s, before⟩
      rcases gathered.stored id s before with ⟨s', found', gathers⟩
      rw [found] at found'
      cases found'
      rw [gathers.name_eq]
      exact current.fits.apart id e s planned before t inserted
  · exact fun id planned => absurd planned none
  · intro id e planned
    rcases current.updates_stored id e planned with ⟨s, before⟩
    rcases gathered.stored id s before with ⟨s', found, -⟩
    exact ⟨s', found⟩
  · rintro t planned ⟨id, u, found, named⟩
    cases before : r.sets.find? id with
    | some s =>
        rcases gathered.stored id s before with ⟨s', found', gathers⟩
        rw [found] at found'
        cases found'
        exact current.inserts_free t planned ⟨id, s, before, gathers.name_eq.symm.trans named⟩
    | none =>
        rcases gathered.fresh id u before found with ⟨q, listed, t', planned', rfl⟩
        exact (apart q listed).inserts t'.name (List.mem_map_of_mem planned')
          (List.mem_map.2 ⟨t, planned, named.symm⟩)

/-- Applying one more independent plan gathers it, too. -/
theorem Gathers.cons {p : Plan} (gathered : Gathers plans r r₁) (current : p.Current r)
    (below : r.IdsBelow) (deletes : p.deletes.keys = []) (apart : ∀ q ∈ plans, q.Independent p)
    (now : Timestamp) : Gathers (p :: plans) r (p.apply now r₁).record := by
  have current₁ := gathered.current current deletes apart
  have wf₁ := gathered.wellFormed
  have merges := current₁.fits.merges wf₁.idsBelow now
  have least : r.nextSetId ≤ r₁.nextSetId := by
    rw [gathered.nextSetId_eq]
    exact Nat.le_add_right _ _
  -- no new name is taken, so the plan writes only over the sets that it updates
  have kept {id : SetId} {u : StoredSet} (found : r₁.sets.find? id = some u)
      (absent : p.updates.find? id = none) : (p.apply now r₁).record.sets.find? id = some u := by
    apply merges.kept id u found (by simp [deletes]) absent
    intro t planned present
    rw [PageRecord.findByName?_eq_none.2 (current₁.free_afterDeletes planned)] at present
    cases present
  have unplanned {id : SetId} (absent : r.sets.find? id = none) : p.updates.find? id = none := by
    rw [Option.eq_none_iff_forall_ne_some]
    intro e planned
    rcases current.updates_stored id e planned with ⟨s, found⟩
    rw [absent] at found
    cases found
  refine ⟨current₁.wellFormed_apply wf₁ now, ?_, ?_, ?_, ?_⟩
  · rw [current₁.nextSetId_apply wf₁.idsBelow, gathered.nextSetId_eq, List.map_cons,
      List.sum_cons, Nat.add_assoc, Nat.add_comm p.inserts.length]
  · intro id s before
    rcases gathered.stored id s before with ⟨u, found, gathers⟩
    cases planned : p.updates.find? id with
    | none => exact ⟨u, kept found planned, gathers.cons_of_absent planned⟩
    | some e =>
        rcases merges.updated id e.1 e.2 u planned found with ⟨u', found', named, rev, rows⟩
        exact ⟨u', found', gathers.cons apart planned named rev rows⟩
  · intro q listed t planned
    rcases List.mem_cons.1 listed with rfl | listed
    · rcases merges.inserted t planned (current₁.free_afterDeletes planned) with ⟨id, unused, found⟩
      exact ⟨id, Nat.le_trans least unused, found⟩
    · rcases gathered.inserted q listed t planned with ⟨id, unused, found⟩
      have absent : r.sets.find? id = none := below.find?_eq_none unused
      exact ⟨id, unused, kept found (unplanned absent)⟩
  · intro id s absent found
    cases between : r₁.sets.find? id with
    | none =>
        rcases (merges.fresh id s between found).2 with
          ⟨t, planned, -, same⟩ | ⟨i, old, t, planned, gone, -⟩
        · exact ⟨p, List.mem_cons_self, t, planned, same⟩
        · rcases current₁.updates_stored i _ planned with ⟨u, stored⟩
          rw [gone] at stored
          cases stored
    | some u =>
        rw [kept between (unplanned absent)] at found
        cases found
        rcases gathered.fresh id s absent between with ⟨q, listed, brought⟩
        exact ⟨q, List.mem_cons_of_mem _ listed, brought⟩

/-- Independent plans are gathered one after another. -/
theorem Gathers.foldl {writes : List (Plan × Timestamp)} (gathered : Gathers plans r r₁)
    (below : r.IdsBelow) (current : ∀ e ∈ writes, e.1.Current r)
    (deletes : ∀ e ∈ writes, e.1.deletes.keys = [])
    (apart : (writes.map (·.1) ++ plans).Pairwise Independent) :
    Gathers (writes.map (·.1) ++ plans) r
      (writes.foldl (fun r e => (e.1.apply e.2 r).record) r₁) := by
  induction writes generalizing plans r₁ with
  | nil => exact gathered
  | cons e writes ih =>
      -- the plan applied first joins those that are gathered already
      have middle : (writes.map (·.1) ++ e.1 :: plans).Perm ((e :: writes).map (·.1) ++ plans) :=
        List.perm_middle
      have first : ∀ q ∈ plans, q.Independent e.1 := by
        intro q listed
        exact ((List.pairwise_cons.1 apart).1 q (List.mem_append_right _ listed)).symm
      have next := gathered.cons (current e List.mem_cons_self) below
        (deletes e List.mem_cons_self) first e.2
      apply Gathers.perm middle
      apply ih next
      · exact fun f listed => current f (List.mem_cons_of_mem _ listed)
      · exact fun f listed => deletes f (List.mem_cons_of_mem _ listed)
      · exact middle.symm.pairwise apart Independent.symm

/-- Renders of one record that keep its sets are gathered if their plans are independent. -/
theorem gathers_renders (wf : r.WellFormed) {renders : List (SetCollection × Timestamp)}
    (keyed : ∀ e ∈ renders, e.1.Keyed)
    (complete : ∀ e ∈ renders, ∀ id s, r.sets.find? id = some s →
      e.1.sets.contains s.name = true)
    (apart : (renders.map fun e => between (some r.toCollection) (some e.1)).Pairwise
      Independent) :
    Gathers (renders.map fun e => between (some r.toCollection) (some e.1)) r
      (renders.foldl
        (fun q e => ((between (some r.toCollection) (some e.1)).apply e.2 q).record) r) := by
  let writes := renders.map fun e => (between (some r.toCollection) (some e.1), e.2)
  have plans : writes.map (·.1) ++ [] =
      renders.map fun e => between (some r.toCollection) (some e.1) := by
    simp [writes, Function.comp_def]
  have gathered : Gathers (writes.map (·.1) ++ []) r
      (writes.foldl (fun q e => (e.1.apply e.2 q).record) r) := by
    apply (Gathers.nil wf).foldl wf.idsBelow
    · intro w listed
      rcases List.mem_map.1 listed with ⟨e, given, rfl⟩
      exact current_between wf (keyed e given)
    · intro w listed
      rcases List.mem_map.1 listed with ⟨e, given, rfl⟩
      exact deletes_between_of_complete (complete e given)
    · rw [plans]
      exact apart
  rw [plans, List.foldl_map] at gathered
  exact gathered

/--
Renders of one record that keep its sets and whose plans are independent may be
stored in any order and at any times: each name ends up with the same variables
and the same revision, and all that was rendered is there.
-/
theorem independent_in_any_order (wf : r.WellFormed)
    {renders renders' : List (SetCollection × Timestamp)}
    (sameRenders : (renders.map (·.1)).Perm (renders'.map (·.1)))
    (keyed : ∀ c ∈ renders.map (·.1), c.Keyed)
    (complete : ∀ c ∈ renders.map (·.1), ∀ id s, r.sets.find? id = some s →
      c.sets.contains s.name = true)
    (apart : ((renders.map (·.1)).map fun c => between (some r.toCollection) (some c)).Pairwise
      Independent) :
    let plan := fun c => between (some r.toCollection) (some c)
    let written := renders.foldl (fun q e => ((plan e.1).apply e.2 q).record) r
    let written' := renders'.foldl (fun q e => ((plan e.1).apply e.2 q).record) r
    written.WellFormed ∧ written'.WellFormed ∧
      (∀ name, written.saved? name = written'.saved? name) ∧
      written.nextSetId = written'.nextSetId ∧
      (∀ c ∈ renders.map (·.1), ∀ name t, c.sets.find? name = some t → ¬r.HasName name →
        written.saved? name = some (t.vars, c.revId)) ∧
      ∀ c ∈ renders.map (·.1), ∀ id s t row, r.sets.find? id = some s →
        c.sets.find? s.name = some t → s.vars.find? row ≠ t.vars.find? row →
        written.row? (s.name, row) = t.vars.find? row := by
  intro plan written written'
  have plans : (renders.map (·.1)).map plan = renders.map fun e => plan e.1 := by simp
  have plans' : (renders'.map (·.1)).map plan = renders'.map fun e => plan e.1 := by simp
  have perm : (renders.map fun e => plan e.1).Perm (renders'.map fun e => plan e.1) := by
    rw [← plans, ← plans']
    exact sameRenders.map plan
  have gathered : Gathers (renders.map fun e => plan e.1) r written := by
    apply gathers_renders wf
    · exact fun e given => keyed e.1 (List.mem_map_of_mem given)
    · exact fun e given => complete e.1 (List.mem_map_of_mem given)
    · rwa [plans] at apart
  have gathered' : Gathers (renders'.map fun e => plan e.1) r written' := by
    apply gathers_renders wf
    · exact fun e given => keyed e.1 (sameRenders.mem_iff.2 (List.mem_map_of_mem given))
    · exact fun e given => complete e.1 (sameRenders.mem_iff.2 (List.mem_map_of_mem given))
    · rw [plans] at apart
      exact perm.pairwise apart Independent.symm
  have same := gathered'.perm perm.symm
  refine ⟨gathered.wellFormed, gathered'.wellFormed, gathered.saved?_eq same, ?_, ?_, ?_⟩
  · rw [gathered.nextSetId_eq, same.nextSetId_eq]
  · intro c given name t rendered absent
    rcases List.mem_map.1 given with ⟨e, listed, rfl⟩
    have planned : t ∈ (plan e.1).inserts := mem_inserts_between_of_new rendered absent
    rcases gathered.inserted _ (List.mem_map_of_mem listed) t planned with ⟨id, -, stored⟩
    apply (PageRecord.saved?_eq_some gathered.wellFormed.distinctNames).2
    rw [newRevId_between_some] at stored
    exact ⟨id, keyed e.1 given name t rendered ▸ stored⟩
  · intro c given id s t row found rendered changed
    rcases List.mem_map.1 given with ⟨e, listed, rfl⟩
    have planned := find?_updates_between_of_changed wf.distinctNames found rendered changed
    rcases gathered.stored id s found with ⟨s', stored, gathers⟩
    rw [PageRecord.row?, ← gathers.name_eq,
      PageRecord.varsNamed_of_stored gathered.wellFormed.distinctNames stored]
    exact gathers.changed _ (List.mem_map_of_mem listed) _ row planned changed

/-- A render that changes a row of one set and brings a new set. -/
def firstChanged : SetCollection where
  pageId := 5
  revId := 2
  sets := .ofList [
    ("a", { name := "a", vars := .ofList [("x", .text "2")] }),
    ("b", { name := "b", vars := .ofList [("x", .text "1")] }),
    ("c", { name := "c", vars := .ofList [("x", .text "2")] })]

/-- A render that adds a row to the same set, drops one of the other and brings another set. -/
def rowsAddedAndDropped : SetCollection where
  pageId := 5
  revId := 3
  sets := .ofList [
    ("a", { name := "a", vars := .ofList [("x", .text "1"), ("y", .text "3")] }),
    ("b", { name := "b", vars := .ofList [] }),
    ("d", { name := "d", vars := .ofList [("x", .text "3")] })]

/-- Two renders that touch the same set end up the same in both orders. -/
theorem independent_in_both_orders :
    let morning : Timestamp := ⟨2024, 1, 1, 9, 0, 0, 0⟩
    let noon : Timestamp := ⟨2024, 1, 1, 12, 0, 0, 0⟩
    let plan := fun c => between (some twoSets.toCollection) (some c)
    let written (renders : List (SetCollection × Timestamp)) :=
      renders.foldl (fun q e => ((plan e.1).apply e.2 q).record) twoSets
    let first := written [(firstChanged, morning), (rowsAddedAndDropped, noon)]
    let second := written [(rowsAddedAndDropped, morning), (firstChanged, noon)]
    (∀ name, first.saved? name = second.saved? name) ∧ first.nextSetId = second.nextSetId ∧
      first.saved? "a" = some (.ofList [("x", .text "2"), ("y", .text "3")], 3) := by
  intro morning noon plan written first second
  let renders := [(firstChanged, morning), (rowsAddedAndDropped, noon)]
  let renders' := [(rowsAddedAndDropped, morning), (firstChanged, noon)]
  have sameRenders : (renders.map (·.1)).Perm (renders'.map (·.1)) := .swap ..
  have keyed : ∀ c ∈ renders.map (·.1), c.Keyed := by decide
  have complete : ∀ c ∈ renders.map (·.1),
      ∀ id s, twoSets.sets.find? id = some s → c.sets.contains s.name = true := by
    intro c given
    apply (SortedMap.forall_find?_iff (p := fun _ (s : StoredSet) =>
      c.sets.contains s.name = true)).2
    revert c
    decide
  have apart : ((renders.map (·.1)).map plan).Pairwise Independent := by decide
  rcases independent_in_any_order (by decide) sameRenders keyed complete apart with
    ⟨-, -, saved, next, -⟩
  exact ⟨saved, next, by decide⟩

end Plan

end TemplateVars
