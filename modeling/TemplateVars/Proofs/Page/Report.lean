import Mathlib.Algebra.BigOperators.Group.Finset.Basic
import Mathlib.Algebra.GroupWithZero.Nat
import TemplateVars.Proofs.Page.Convergence
import TemplateVars.Proofs.Page.Rows

/-!
# What the report counts

The report of a plan is kept beside the record and counts what each write sets
out to do. For a plan that was made against the record itself this is what
becomes of the record: the counters of sets tell how many names have gone, come
and stayed, and the counters of rows how many rows have appeared, changed and
disappeared.
-/

namespace TemplateVars

namespace PageRecord

/-- The variables of the stored set under an identifier; none if there is no such set. -/
def varsAt (r : PageRecord) (id : SetId) : SortedMap String Variable :=
  ((r.sets.find? id).map (·.vars)).getD ∅

end PageRecord

namespace Plan

/-! ### Reports of the three phases -/

theorem report_deletes {ids : List SetId} (nodup : ids.Nodup) {a : Applied}
    (stored : ∀ id ∈ ids, ∃ s, a.record.sets.find? id = some s) :
    (ids.foldl (fun a id => a.delete id) a).report =
      { a.report with
        deletedSets := a.report.deletedSets + ids.length
        rowsDeleted :=
          a.report.rowsDeleted + (ids.map fun id => (a.record.varsAt id).size).sum } := by
  induction ids generalizing a with
  | nil => rfl
  | cons id ids ih =>
      rw [List.nodup_cons] at nodup
      rcases stored id List.mem_cons_self with ⟨s, found⟩
      have others {other : SetId} (listed : other ∈ ids) :
          (a.delete id).record.sets.find? other = a.record.sets.find? other := by
        have differ : other ∉ [id] := fun same =>
          nodup.1 (List.mem_singleton.1 same ▸ listed)
        rw [Applied.record_delete, PageRecord.find?_without, if_neg differ]
      have storedRest : ∀ other ∈ ids, ∃ s, (a.delete id).record.sets.find? other = some s := by
        intro other listed
        rw [others listed]
        exact stored other (List.mem_cons_of_mem _ listed)
      have rows : (ids.map fun other => ((a.delete id).record.varsAt other).size) =
          ids.map fun other => (a.record.varsAt other).size := by
        apply List.map_congr_left
        intro other listed
        rw [PageRecord.varsAt, PageRecord.varsAt, others listed]
      rw [List.foldl_cons, ih nodup.2 storedRest, rows]
      simp [Applied.delete, found, PageRecord.varsAt, Nat.add_assoc, Nat.add_comm 1]

theorem report_inserts (rev : RevId) {inserts : List VariableSet} {a : Applied}
    (below : a.record.IdsBelow) (nodup : (inserts.map (·.name)).Nodup)
    (free : ∀ t ∈ inserts, ¬a.record.HasName t.name) :
    (inserts.foldl (fun a t => a.insert rev t) a).report =
      { a.report with
        insertedSets := a.report.insertedSets + inserts.length
        rowsInserted := a.report.rowsInserted + (inserts.map (·.vars.size)).sum } := by
  induction inserts generalizing a with
  | nil => rfl
  | cons t inserts ih =>
      simp only [List.map_cons, List.nodup_cons, List.mem_map, not_exists, not_and] at nodup
      have stored : a.insert rev t = a.store rev t := by
        simp [Applied.insert, PageRecord.findByName?_eq_none.2 (free t List.mem_cons_self)]
      have record : (a.store rev t).record = a.record.storeNew (t.toStored rev) := rfl
      have freeRest : ∀ u ∈ inserts, ¬(a.store rev t).record.HasName u.name := by
        intro u listed
        rw [record, PageRecord.hasName_storeNew below, not_or]
        exact ⟨fun same => nodup.1 u listed same.symm, free u (List.mem_cons_of_mem _ listed)⟩
      rw [List.foldl_cons, stored, ih (below.storeNew _) nodup.2 freeRest]
      simp [Applied.store, Nat.add_assoc, Nat.add_comm 1]

theorem report_updates (page : PageId) (rev : RevId)
    {updates : List (SetId × VariableSet × VariableSet)} {a : Applied}
    (stored : ∀ e ∈ updates, ∃ s, a.record.sets.find? e.1 = some s) :
    ∃ stale, (updates.foldl (fun a e => a.updateOrStore page rev e.1 e.2.1 e.2.2) a).report =
      { a.report with
        updatedSets := a.report.updatedSets + updates.length
        rowsInserted := a.report.rowsInserted +
          (updates.map fun e => (RowDiff.between e.2.1 e.2.2).inserts.size).sum
        rowsUpdated := a.report.rowsUpdated +
          (updates.map fun e => (RowDiff.between e.2.1 e.2.2).updates.size).sum
        rowsDeleted := a.report.rowsDeleted +
          (updates.map fun e => (RowDiff.between e.2.1 e.2.2).deletes.size).sum
        staleSets := stale } := by
  induction updates generalizing a with
  | nil => exact ⟨a.report.staleSets, rfl⟩
  | cons e updates ih =>
      rcases stored e List.mem_cons_self with ⟨s, found⟩
      have storedRest : ∀ u ∈ updates,
          ∃ t, (a.updateOrStore page rev e.1 e.2.1 e.2.2).record.sets.find? u.1 = some t := by
        intro u listed
        rcases stored u (List.mem_cons_of_mem _ listed) with ⟨t, present⟩
        rw [Applied.record_updateOrStore, PageRecord.updateSet_of_stored found,
          PageRecord.find?_rewrite]
        split
        · exact ⟨_, by rw [found, Option.map_some]⟩
        · exact ⟨t, present⟩
      rcases ih storedRest with ⟨stale, counted⟩
      refine ⟨stale, ?_⟩
      rw [List.foldl_cons, counted]
      simp [Applied.updateOrStore, Applied.update, SortedMap.contains, found, Nat.add_assoc,
        Nat.add_comm 1]

/-- The report of a plan that is up to date counts what the plan lists. -/
theorem Current.report_apply {p : Plan} {r : PageRecord} (current : p.Current r)
    (below : r.IdsBelow) (now : Timestamp) :
    ∃ stale, (p.apply now r).report =
      { deletedSets := p.deletes.size
        insertedSets := p.inserts.length
        updatedSets := p.updates.size
        rowsInserted := (p.inserts.map (·.vars.size)).sum +
          (p.updates.toList.map fun e => (RowDiff.between e.2.1 e.2.2).inserts.size).sum
        rowsUpdated :=
          (p.updates.toList.map fun e => (RowDiff.between e.2.1 e.2.2).updates.size).sum
        rowsDeleted := (p.deletes.keys.map fun id => (r.varsAt id).size).sum +
          (p.updates.toList.map fun e => (RowDiff.between e.2.1 e.2.2).deletes.size).sum
        staleSets := stale } := by
  let deleted : Applied := p.deletes.keys.foldl (fun a id => a.delete id) { record := r }
  let inserted : Applied := p.inserts.foldl (fun a t => a.insert p.newRevId t) deleted
  let updated : Applied := p.updates.toList.foldl
    (fun a e => a.updateOrStore p.pageId p.newRevId e.1 e.2.1 e.2.2) inserted
  have afterDeletes : deleted.record = p.afterDeletes r := record_deletes ..
  have afterInserts : inserted.record = p.afterInserts r := by
    rw [Plan.afterInserts, ← afterDeletes]
    exact Applied.record_foldl (fun a s => a.record_insert p.newRevId s) ..
  have reported : (p.apply now r).report = updated.report := by
    rw [apply]
    split <;> rfl
  have free : ∀ t ∈ p.inserts, ¬deleted.record.HasName t.name := by
    rw [afterDeletes]
    exact fun t planned => current.free_afterDeletes planned
  -- what is to be updated is not deleted, and no insert takes it away
  have present : ∀ e ∈ p.updates.toList, ∃ s, inserted.record.sets.find? e.1 = some s := by
    rw [afterInserts]
    intro e listed
    rcases current.stored_afterDeletes (SortedMap.find?_eq_some.2 listed) with ⟨s, spared⟩
    have grown : p.Grows (p.afterDeletes r) (p.afterInserts r) :=
      (grows_of_writes (writes_afterInserts r) (below.without _)).1
    rcases grown.kept e.1 s spared with ⟨s', kept, -⟩
    exact ⟨s', kept⟩
  have deletes : deleted.report = _ := report_deletes p.deletes.keys_nodup current.deletes_stored
  have inserts : inserted.report = _ := report_inserts p.newRevId
    (by rw [afterDeletes]; exact below.without _) current.fits.inserts_nodup free
  rcases report_updates p.pageId p.newRevId present with ⟨stale, updates⟩
  have updates : updated.report = _ := updates
  refine ⟨stale, ?_⟩
  rw [reported, updates, inserts, deletes]
  simp [SortedMap.size, SortedMap.keys]

/-! ### Counting by name -/

/-- Where each entry of a list has a name of its own, sums over the list are sums over names. -/
theorem sum_by_name {γ : Type} {l : List γ} (nameOf : γ → String)
    (nodup : (l.map nameOf).Nodup) {names : Finset String}
    (listed : ∀ name, name ∈ names ↔ ∃ c ∈ l, nameOf c = name) {f : γ → Nat} {g : String → Nat}
    (same : ∀ c ∈ l, f c = g (nameOf c)) : (l.map f).sum = ∑ name ∈ names, g name := by
  have all : (l.map nameOf).toFinset = names := by
    ext name
    rw [List.mem_toFinset, List.mem_map, listed]
  rw [← all, List.sum_toFinset g nodup, List.map_map]
  congr 1
  exact List.map_congr_left same

variable {r : PageRecord} (distinct : r.DistinctNames) {new : SetCollection}

include distinct

theorem sum_deletesBetween {f : SetId → Nat} {g : String → Nat}
    (same : ∀ id s, r.sets.find? id = some s → f id = g s.name) :
    ((deletesBetween r.toCollection new).keys.map f).sum =
      ∑ name ∈ r.names \ new.sets.domain, g name := by
  have deleted {id : SetId} (planned : id ∈ (deletesBetween r.toCollection new).keys) :=
    (mem_deletesBetween_of_distinct r new distinct).1 planned
  refine sum_by_name r.nameOf ?_ ?_ ?_
  · refine List.Nodup.map_on ?_ (SortedMap.keys_nodup _)
    intro i planned j planned' alike
    rcases deleted planned with ⟨s, found, -⟩
    rcases deleted planned' with ⟨t, found', -⟩
    rw [PageRecord.nameOf_of_stored found, PageRecord.nameOf_of_stored found'] at alike
    exact distinct i j s t found found' alike
  · intro name
    rw [Finset.mem_sdiff, PageRecord.mem_names, SortedMap.mem_domain, not_not]
    constructor
    · rintro ⟨⟨id, s, found, rfl⟩, lacking⟩
      exact ⟨id, (mem_deletesBetween_of_distinct r new distinct).2 ⟨s, found, lacking⟩,
        PageRecord.nameOf_of_stored found⟩
    · rintro ⟨id, planned, rfl⟩
      rcases deleted planned with ⟨s, found, lacking⟩
      rw [PageRecord.nameOf_of_stored found]
      exact ⟨⟨id, s, found, rfl⟩, lacking⟩
  · intro id planned
    rcases deleted planned with ⟨s, found, -⟩
    rw [PageRecord.nameOf_of_stored found]
    exact same id s found

theorem sum_updatesBetween {f : SetId × VariableSet × VariableSet → Nat} {g : String → Nat}
    (same : ∀ id s t, r.sets.find? id = some s → new.sets.find? s.name = some t →
      f (id, PageRecord.asVariableSet id s, t) = g s.name) :
    ((updatesBetween r.toCollection new).toList.map f).sum =
      ∑ name ∈ r.names ∩ new.sets.domain, g name := by
  have updated {e : SetId × VariableSet × VariableSet}
      (listed : e ∈ (updatesBetween r.toCollection new).toList) :=
    (find?_updatesBetween_of_distinct r new distinct).1 (SortedMap.find?_eq_some.2 listed)
  refine sum_by_name (fun e => r.nameOf e.1) ?_ ?_ ?_
  · refine List.pairwise_map.2 ((List.pairwise_map.1 (SortedMap.keys_nodup _)).imp_of_mem ?_)
    intro e e' listed listed' differ alike
    rcases updated listed with ⟨s, found, -⟩
    rcases updated listed' with ⟨t, found', -⟩
    rw [PageRecord.nameOf_of_stored found, PageRecord.nameOf_of_stored found'] at alike
    exact differ (distinct _ _ s t found found' alike)
  · intro name
    rw [Finset.mem_inter, PageRecord.mem_names, SortedMap.mem_domain,
      Option.ne_none_iff_exists']
    constructor
    · rintro ⟨⟨id, s, found, rfl⟩, t, rendered⟩
      exact ⟨(id, _, t), SortedMap.find?_eq_some.1
        ((find?_updatesBetween_of_distinct r new distinct).2 ⟨s, found, rendered, rfl⟩),
        PageRecord.nameOf_of_stored found⟩
    · rintro ⟨e, listed, rfl⟩
      rcases updated listed with ⟨s, found, rendered, -⟩
      rw [PageRecord.nameOf_of_stored found]
      exact ⟨⟨e.1, s, found, rfl⟩, e.2.2, rendered⟩
  · intro e listed
    rcases updated listed with ⟨s, found, rendered, old⟩
    have entry : e = (e.1, PageRecord.asVariableSet e.1 s, e.2.2) := by rw [← old]
    rw [entry, PageRecord.nameOf_of_stored found]
    exact same e.1 s e.2.2 found rendered

omit distinct in
theorem sum_insertsBetween (keyed : new.Keyed) {f : VariableSet → Nat} {g : String → Nat}
    (same : ∀ name t, new.sets.find? name = some t → ¬r.HasName name → f t = g name) :
    ((insertsBetween r.toCollection new).map f).sum =
      ∑ name ∈ new.sets.domain \ r.names, g name := by
  refine sum_by_name (·.name) (insertsBetween_names_nodup r new keyed) ?_ ?_
  · intro name
    rw [Finset.mem_sdiff, PageRecord.mem_names, SortedMap.mem_domain,
      Option.ne_none_iff_exists']
    constructor
    · rintro ⟨⟨t, rendered⟩, absent⟩
      exact ⟨t, (mem_insertsBetween r new).2 ⟨name, rendered, absent⟩, keyed name t rendered⟩
    · rintro ⟨t, planned, rfl⟩
      rcases (mem_insertsBetween r new).1 planned with ⟨key, rendered, absent⟩
      cases keyed key t rendered
      exact ⟨⟨t, rendered⟩, absent⟩
  · intro t planned
    rcases (mem_insertsBetween r new).1 planned with ⟨key, rendered, absent⟩
    cases keyed key t rendered
    exact same t.name t rendered absent

end Plan

namespace ApplyReport

/-- The counters of sets tell how many names have gone, come and stayed. -/
structure CountsSets (report : ApplyReport) (r r' : PageRecord) : Prop where
  deleted : report.deletedSets = (r.names \ r'.names).card
  inserted : report.insertedSets = (r'.names \ r.names).card
  updated : report.updatedSets = (r.names ∩ r'.names).card

/-- The counters of rows tell how many rows have appeared, changed and disappeared. -/
structure CountsRows (report : ApplyReport) (r r' : PageRecord) : Prop where
  inserted : report.rowsInserted = (r'.rows \ r.rows).card
  updated : report.rowsUpdated =
    ((r.rows ∩ r'.rows).filter fun key => r.row? key ≠ r'.row? key).card
  deleted : report.rowsDeleted = (r.rows \ r'.rows).card

end ApplyReport

namespace Plan

variable {r r' : PageRecord} {new : SetCollection}

theorem names_of_contents_eq (distinct : r'.DistinctNames) (keyed : new.Keyed)
    (contents : r'.toCollection.contents = new.contents) : r'.names = new.sets.domain := by
  ext name
  have said := (PageRecord.contents_toCollection_eq_iff distinct keyed).1 contents name
  rw [PageRecord.mem_names, ← not_iff_not, ← PageRecord.vars?_eq_none, said]
  simp

theorem varsNamed_of_contents_eq (distinct : r'.DistinctNames) (keyed : new.Keyed)
    (contents : r'.toCollection.contents = new.contents) {name : String} {t : VariableSet}
    (rendered : new.sets.find? name = some t) : r'.varsNamed name = t.vars := by
  have said := (PageRecord.contents_toCollection_eq_iff distinct keyed).1 contents name
  simp [PageRecord.varsNamed, said, rendered]

/-- Once a plan is applied, what it updates are the rows before and after of the common names. -/
theorem sum_updates_rows (distinct : r.DistinctNames) (distinct' : r'.DistinctNames)
    (keyed : new.Keyed) (contents : r'.toCollection.contents = new.contents)
    {f : VariableSet → VariableSet → Nat}
    {g : SortedMap String Variable → SortedMap String Variable → Nat}
    (same : ∀ old t, f old t = g old.vars t.vars) :
    ((updatesBetween r.toCollection new).toList.map fun e => f e.2.1 e.2.2).sum =
      ∑ name ∈ r.names ∩ r'.names, g (r.varsNamed name) (r'.varsNamed name) := by
  rw [names_of_contents_eq distinct' keyed contents]
  apply sum_updatesBetween distinct
  intro id s t found rendered
  rw [same, PageRecord.varsNamed_of_stored distinct found,
    varsNamed_of_contents_eq distinct' keyed contents rendered]
  rfl

theorem countsSets_apply_between (wf : r.WellFormed) (keyed : new.Keyed)
    (differ : r.toCollection.contents ≠ new.contents) (now : Timestamp) :
    let applied := (between (some r.toCollection) (some new)).apply now r
    applied.report.CountsSets r applied.record := by
  intro applied
  rcases apply_between_toCollection wf keyed now with ⟨wf', contents⟩
  rcases (current_between wf keyed).report_apply wf.idsBelow now with ⟨stale, report⟩
  have names : applied.record.names = new.sets.domain :=
    names_of_contents_eq wf'.distinctNames keyed contents
  have report : applied.report = _ := report
  rw [between_of_differ r new differ] at report
  have deletes : ((deletesBetween r.toCollection new).keys.map fun _ => 1).sum =
      ∑ name ∈ r.names \ new.sets.domain, 1 :=
    sum_deletesBetween wf.distinctNames fun _ _ _ => rfl
  have inserts : ((insertsBetween r.toCollection new).map fun _ => 1).sum =
      ∑ name ∈ new.sets.domain \ r.names, 1 :=
    sum_insertsBetween keyed fun _ _ _ _ => rfl
  have updates : ((updatesBetween r.toCollection new).toList.map fun _ => 1).sum =
      ∑ name ∈ r.names ∩ new.sets.domain, 1 :=
    sum_updatesBetween wf.distinctNames fun _ _ _ _ _ => rfl
  constructor
  · simpa [report, names, SortedMap.size, SortedMap.keys, Function.comp_def] using deletes
  · simpa [report, names] using inserts
  · simpa [report, names, SortedMap.size] using updates

theorem countsRows_apply_between (wf : r.WellFormed) (keyed : new.Keyed)
    (differ : r.toCollection.contents ≠ new.contents) (now : Timestamp) :
    let applied := (between (some r.toCollection) (some new)).apply now r
    applied.report.CountsRows r applied.record := by
  intro applied
  rcases apply_between_toCollection wf keyed now with ⟨wf', contents⟩
  rcases (current_between wf keyed).report_apply wf.idsBelow now with ⟨stale, report⟩
  have distinct := wf.distinctNames
  have distinct' : applied.record.DistinctNames := wf'.distinctNames
  have names : applied.record.names = new.sets.domain :=
    names_of_contents_eq distinct' keyed contents
  have report : applied.report = _ := report
  rw [between_of_differ r new differ] at report
  have gone : ((deletesBetween r.toCollection new).keys.map fun id => (r.varsAt id).size).sum =
      ∑ name ∈ r.names \ applied.record.names, (r.varsNamed name).size := by
    rw [names]
    apply sum_deletesBetween distinct
    intro id s found
    rw [PageRecord.varsNamed_of_stored distinct found, PageRecord.varsAt, found]
    rfl
  have come : ((insertsBetween r.toCollection new).map (·.vars.size)).sum =
      ∑ name ∈ applied.record.names \ r.names, (applied.record.varsNamed name).size := by
    rw [names]
    apply sum_insertsBetween keyed
    intro name t rendered _
    rw [varsNamed_of_contents_eq distinct' keyed contents rendered]
  constructor
  · have stayed := sum_updates_rows distinct distinct' keyed contents
      (g := fun old new => (new.domain \ old.domain).card) RowDiff.size_inserts_between
    rw [report, PageRecord.card_rows_gone distinct' distinct, Finset.inter_comm, ← come, ← stayed]
  · have stayed := sum_updates_rows distinct distinct' keyed contents
      (g := fun old new => ((old.domain ∩ new.domain).filter fun row =>
        old.find? row ≠ new.find? row).card) RowDiff.size_updates_between
    rw [report, PageRecord.card_rows_changed distinct distinct', ← stayed]
  · have stayed := sum_updates_rows distinct distinct' keyed contents
      (g := fun old new => (old.domain \ new.domain).card) RowDiff.size_deletes_between
    rw [report, PageRecord.card_rows_gone distinct distinct', ← gone, ← stayed]

/-- A plan with nothing to do reports nothing. -/
theorem report_of_isEmpty {p : Plan} (nothing : p.isEmpty = true) (now : Timestamp) :
    (p.apply now r).report = {} := by
  have parts : (p.deletes.toList = [] ∧ p.inserts = []) ∧ p.updates.toList = [] := by
    simpa [isEmpty, total, SortedMap.size] using nothing
  simp [apply, nothing, SortedMap.keys, parts]

/-- What is to be expected of a plan that is applied to the very record it was made against. -/
structure Converges (p : Plan) (r : PageRecord) (new : SetCollection) (a : Applied) : Prop where
  isEmpty_iff : p.isEmpty = true ↔ r.toCollection.contents = new.contents
  contents_eq : a.record.toCollection.contents = new.contents
  wellFormed : a.record.WellFormed
  /-- A name keeps its identifier as long as it is stored. -/
  sameIds : ∀ i j s s', r.sets.find? i = some s → a.record.sets.find? j = some s' →
    s'.name = s.name → j = i
  /-- A new name gets an identifier that has not been used. -/
  newIds : ∀ id s, a.record.sets.find? id = some s → ¬r.HasName s.name → r.nextSetId ≤ id
  countsSets : p.isEmpty = false → a.report.CountsSets r a.record
  noSets : p.isEmpty = true →
    a.report.deletedSets = 0 ∧ a.report.insertedSets = 0 ∧ a.report.updatedSets = 0
  countsRows : a.report.CountsRows r a.record

theorem converges_between (wf : r.WellFormed) (keyed : new.Keyed) (now : Timestamp) :
    let p := between (some r.toCollection) (some new)
    p.Converges r new (p.apply now r) := by
  intro p
  rcases apply_between_toCollection wf keyed now with ⟨wf', contents⟩
  have descends : r.Descends (p.apply now r).record :=
    wf.idsBelow.descends.apply wf.idsBelow p now
  have busy_iff : p.isEmpty = false ↔ r.toCollection.contents ≠ new.contents := by
    rw [ne_eq, ← isEmpty_between_iff, Bool.not_eq_true]
  refine ⟨isEmpty_between_iff r new, contents, wf', ?_, ?_, ?_, ?_, ?_⟩
  · exact fun i j s s' found found' => id_eq_of_name_eq wf keyed found found'
  · intro id s found absent
    cases before : r.sets.find? id with
    | none => exact (apply_fresh wf.idsBelow now before found).1
    | some t => exact absurd ⟨id, t, before, descends.sameNames id t s before found⟩ absent
  · intro busy
    exact countsSets_apply_between wf keyed (busy_iff.1 busy) now
  · intro nothing
    rw [report_of_isEmpty nothing]
    exact ⟨rfl, rfl, rfl⟩
  · cases state : p.isEmpty with
    | false => exact countsRows_apply_between wf keyed (busy_iff.1 state) now
    | true =>
        rw [apply_of_isEmpty state, report_of_isEmpty state]
        constructor <;> simp

/--
Applied to the record it was made against, a plan leaves the sets of the render,
or no set if there is no render, and its report is exact.
-/
theorem converges_on_own_record (wf : r.WellFormed) {new? : Option SetCollection}
    (keyed : ∀ c, new? = some c → c.Keyed) (now : Timestamp) :
    let p := between (some r.toCollection) new?
    p.Converges r (new?.getD { pageId := r.pageId, revId := r.newestRevId }) (p.apply now r) := by
  cases new? with
  | none =>
      have nothing : between (some r.toCollection) none =
          between (some r.toCollection) (some { pageId := r.pageId, revId := r.newestRevId }) := by
        rw [between_none_right, PageRecord.pageId_toCollection, PageRecord.revId_toCollection]
      rw [nothing]
      refine converges_between wf ?_ now
      intro name t rendered
      cases rendered
  | some c => exact converges_between wf (keyed c rfl) now

/-- One set of two goes, one stays with a changed row, one comes, and all of it is counted. -/
theorem converges_on_twoSets :
    let now : Timestamp := ⟨2024, 1, 1, 0, 0, 0, 0⟩
    let p := between (some twoSets.toCollection) (some changedAndNew)
    twoSets.WellFormed ∧ (∀ c, some changedAndNew = some c → c.Keyed) ∧
      p.Converges twoSets changedAndNew (p.apply now twoSets) ∧
      (p.apply now twoSets).report =
        { deletedSets := 1, insertedSets := 1, updatedSets := 1
          rowsInserted := 1, rowsUpdated := 1, rowsDeleted := 1 } := by
  intro now p
  have wf : twoSets.WellFormed := by decide
  have keyed : ∀ c, some changedAndNew = some c → c.Keyed := by
    rintro c ⟨⟩
    decide
  exact ⟨wf, keyed, converges_on_own_record wf keyed now, by decide⟩

end Plan

end TemplateVars
