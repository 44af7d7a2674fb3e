import TemplateVars.Proofs.Page.Merge

/-!
# Revisions under any plans

Plans may be old, repeated or made by hand, and one plan may come upon the same
set twice. A set that stays keeps its identifier and its name, and its revision
never goes back; identifiers that were used once are never given again. The
report of each plan tells the sets that it wrote over apart: those it calls
stale are at or past its revision, all others have just arrived at it.
-/

namespace TemplateVars

namespace PageRecord

/-- The record after plans that are applied one after another. -/
def afterAll (r : PageRecord) (plans : List (Plan × Timestamp)) : PageRecord :=
  plans.foldl (fun r e => (e.1.apply e.2 r).record) r

theorem afterAll_append (r : PageRecord) (plans later : List (Plan × Timestamp)) :
    r.afterAll (plans ++ later) = (r.afterAll plans).afterAll later :=
  List.foldl_append

theorem IdsBelow.afterAll {r : PageRecord} (below : r.IdsBelow) (plans : List (Plan × Timestamp)) :
    (r.afterAll plans).IdsBelow :=
  (below.descends.foldl below plans).idsBelow

/-- An identifier in use at some time is below every later next one. -/
theorem IdsBelow.lt_nextSetId_of_prefix {r : PageRecord} (below : r.IdsBelow)
    {done plans : List (Plan × Timestamp)} (started : done <+: plans) {id : SetId} {s : StoredSet}
    (found : (r.afterAll done).sets.find? id = some s) : id < (r.afterAll plans).nextSetId := by
  rcases started with ⟨rest, rfl⟩
  have now := below.afterAll done
  rw [afterAll_append]
  exact Nat.lt_of_lt_of_le (now id s found) (now.descends.foldl now rest).nextSetId_le

/-- The stored sets that are written over when sets are written to their places in turn. -/
def writtenOver (rev : RevId) (r : PageRecord) : List (PageRecord → Placement) → List SetId
  | [] => []
  | place :: places =>
      ((place r).over?.map (·.1)).toList ++ writtenOver rev (r.place rev (place r)) places

end PageRecord

namespace Plan

variable (p : Plan)

/-- Where the sets of a plan go, as each depends on the record at its turn. -/
def places : List (PageRecord → Placement) :=
  p.inserts.map (fun t r => r.placeByName t) ++ p.updates.toList.map fun e r => r.placeById e

/-- The stored sets that a plan updates, once for every time that it does. -/
def updatedSets (r : PageRecord) : List SetId :=
  (p.afterDeletes r).writtenOver p.newRevId p.places

end Plan

namespace Applied

/-- What a report says of the sets that were written over so far at a revision. -/
structure Reports (rev : RevId) (a : Applied) (updated : List SetId) : Prop where
  idsBelow : a.record.IdsBelow
  counted : a.report.updatedSets = updated.length
  current : ∀ id ∈ updated, id ∉ a.report.staleSets.keys →
    ∃ s, a.record.sets.find? id = some s ∧ s.revId = rev
  stale : ∀ id ∈ a.report.staleSets.keys,
    id ∈ updated ∧ ∃ s, a.record.sets.find? id = some s ∧ rev ≤ s.revId

variable {rev : RevId} {a : Applied} {updated : List SetId}

/-- Storing a set anew touches no stored set, and the report names none. -/
theorem Reports.store (reports : a.Reports rev updated) (t : VariableSet) :
    (a.store rev t).Reports rev updated where
  idsBelow := reports.idsBelow.storeNew _
  counted := reports.counted
  current := by
    intro id listed fresh
    rcases reports.current id listed fresh with ⟨s, found, arrived⟩
    exact ⟨s, PageRecord.find?_storeNew_of_stored reports.idsBelow found _, arrived⟩
  stale := by
    intro id listed
    rcases reports.stale id listed with ⟨known, s, found, past⟩
    exact ⟨known, s, PageRecord.find?_storeNew_of_stored reports.idsBelow found _, past⟩

theorem Reports.warn (reports : a.Reports rev updated) (warnings : List Warning) :
    { a with warnings }.Reports rev updated :=
  ⟨reports.idsBelow, reports.counted, reports.current, reports.stale⟩

/-- A set that is written over arrives at the revision, or it is reported as stale. -/
theorem Reports.update (reports : a.Reports rev updated) {id : SetId} {s : StoredSet}
    (found : a.record.sets.find? id = some s) (old new : VariableSet) :
    (a.update rev id old new).Reports rev (updated ++ [id]) := by
  have lookup (other : SetId) : (a.update rev id old new).record.sets.find? other =
      if other = id then some (s.rewritten rev old new) else a.record.sets.find? other := by
    rw [record_update, PageRecord.find?_rewrite, found, Option.map_some]
  have listed (other : SetId) : other ∈ (a.update rev id old new).report.staleSets.keys ↔
      other ∈ a.report.staleSets.keys ∨
        other = id ∧ isStale s.revId rev (RowDiff.between old new) = true := by
    rw [SortedMap.mem_keys_iff, SortedMap.mem_keys_iff]
    by_cases stale : isStale s.revId rev (RowDiff.between old new) = true
    · by_cases same : other = id <;> simp [Applied.update, found, stale, same]
    · simp [Applied.update, found, stale]
  refine ⟨?_, ?_, ?_, ?_⟩
  · rw [record_update]
    exact reports.idsBelow.rewrite rev id old new
  · simp [Applied.update, found, reports.counted]
  · intro other known fresh
    rw [listed, not_or, not_and] at fresh
    rw [lookup]
    by_cases same : other = id
    · have notStale := fresh.2 same
      simp only [isStale, Bool.or_eq_true, decide_eq_true_eq, not_or] at notStale
      refine ⟨s.rewritten rev old new, if_pos same, ?_⟩
      exact Nat.max_eq_right (Nat.not_lt.1 notStale.1)
    · rw [if_neg same]
      have before : other ∈ updated := by
        simpa [same] using known
      exact reports.current other before fresh.1
  · intro other known
    rw [lookup]
    rcases (listed other).1 known with before | ⟨same, -⟩
    · rcases reports.stale other before with ⟨written, t, stored, past⟩
      refine ⟨List.mem_append_left _ written, ?_⟩
      by_cases same : other = id
      · exact ⟨_, if_pos same, Nat.le_max_right _ _⟩
      · exact ⟨t, by rw [if_neg same, stored], past⟩
    · refine ⟨?_, _, if_pos same, Nat.le_max_right _ _⟩
      simp [same]

/-- A change that writes a set to its place adds what it writes over to the report. -/
theorem Reports.place (reports : a.Reports rev updated) {w : Placement} (warnings : List Warning)
    {a' : Applied}
    (occupied : ∀ id old, w.over? = some (id, old) →
      (∃ s, a.record.sets.find? id = some s) ∧ a' = a.update rev id old w.set)
    (anew : w.over? = none → a' = { a with warnings }.store rev w.set) :
    a'.Reports rev (updated ++ (w.over?.map (·.1)).toList) := by
  cases goes : w.over? with
  | none =>
      rw [anew goes]
      simpa using (reports.warn warnings).store w.set
  | some e =>
      rcases occupied e.1 e.2 goes with ⟨⟨s, found⟩, rfl⟩
      simpa using reports.update found e.2 w.set

theorem Reports.insert (reports : a.Reports rev updated) (t : VariableSet) :
    (a.insert rev t).Reports rev
      (updated ++ ((a.record.placeByName t).over?.map (·.1)).toList) := by
  refine reports.place a.warnings ?_ ?_
  · intro id old occupied
    rcases PageRecord.over?_placeByName.1 occupied with ⟨s, named, rfl⟩
    refine ⟨⟨s, (PageRecord.find?_of_findByName? named).1⟩, ?_⟩
    simp [Applied.insert, named, PageRecord.placeByName]
  · intro occupied
    have absent : a.record.findByName? t.name = none := by
      rwa [PageRecord.findByName?_eq_none, ← PageRecord.over?_placeByName_eq_none]
    simp [Applied.insert, absent, PageRecord.placeByName]

theorem Reports.updateOrStore (reports : a.Reports rev updated) (page : PageId)
    (e : SetId × VariableSet × VariableSet) :
    (a.updateOrStore page rev e.1 e.2.1 e.2.2).Reports rev
      (updated ++ ((a.record.placeById e).over?.map (·.1)).toList) := by
  refine reports.place (a.warnings ++ [.vanished page e.1]) ?_ ?_
  · intro id old occupied
    rcases PageRecord.over?_placeById.1 occupied with ⟨⟨s, found⟩, rfl, rfl⟩
    refine ⟨⟨s, found⟩, ?_⟩
    simp [Applied.updateOrStore, SortedMap.contains, found, PageRecord.placeById]
  · intro occupied
    have gone := PageRecord.over?_placeById_eq_none.1 occupied
    simp [Applied.updateOrStore, SortedMap.contains, gone, PageRecord.placeById]

/-- Changes that each write a set to its place add up to what is written over by them all. -/
theorem Reports.foldl {γ : Type} {change : Applied → γ → Applied}
    (place : γ → PageRecord → Placement)
    (each : ∀ {a : Applied} {updated : List SetId} (c : γ), a.Reports rev updated →
      (change a c).Reports rev (updated ++ ((place c a.record).over?.map (·.1)).toList))
    (record : ∀ a c, (change a c).record = a.record.place rev (place c a.record))
    (changes : List γ) (later : List (PageRecord → Placement)) (reports : a.Reports rev updated) :
    ∃ more, (changes.foldl change a).Reports rev (updated ++ more) ∧
      a.record.writtenOver rev (changes.map place ++ later) =
        more ++ (changes.foldl change a).record.writtenOver rev later := by
  induction changes generalizing a updated with
  | nil => exact ⟨[], by simpa using reports, rfl⟩
  | cons c changes ih =>
      rcases ih (each c reports) with ⟨more, reported, rest⟩
      refine ⟨((place c a.record).over?.map (·.1)).toList ++ more, ?_, ?_⟩
      · simpa [List.append_assoc] using reported
      · rw [record] at rest
        simp [PageRecord.writtenOver, rest]

/-- Deleting says nothing of updated and of stale sets. -/
theorem report_delete (a : Applied) (id : SetId) :
    (a.delete id).report.updatedSets = a.report.updatedSets ∧
      (a.delete id).report.staleSets = a.report.staleSets := by
  cases found : a.record.sets.find? id <;> simp [delete, found]

end Applied

namespace Plan

/-- The report of a plan tells the sets that it updates by whether they have become stale. -/
theorem reports_apply {r : PageRecord} (below : r.IdsBelow) (p : Plan) (now : Timestamp) :
    (p.apply now r).Reports p.newRevId (p.updatedSets r) := by
  let deleted : Applied := p.deletes.keys.foldl (fun a id => a.delete id) { record := r }
  have afterDeletes : deleted.record = p.afterDeletes r := record_deletes ..
  have silent : deleted.report.updatedSets = 0 ∧ deleted.report.staleSets = ∅ := by
    have kept : ∀ (ids : List SetId) (a : Applied),
        (ids.foldl (fun a id => a.delete id) a).report.updatedSets = a.report.updatedSets ∧
          (ids.foldl (fun a id => a.delete id) a).report.staleSets = a.report.staleSets := by
      intro ids
      induction ids with
      | nil => exact fun a => ⟨rfl, rfl⟩
      | cons id ids ih =>
          intro a
          rw [List.foldl_cons, (ih _).1, (ih _).2]
          exact a.report_delete id
    exact kept p.deletes.keys { record := r }
  have start : deleted.Reports p.newRevId [] := by
    refine ⟨?_, silent.1, nofun, ?_⟩
    · rw [afterDeletes]
      exact below.without _
    · rw [silent.2]
      exact nofun
  rcases start.foldl (fun t r => r.placeByName t) (fun t reports => reports.insert t)
      (fun a t => (a.record_insert p.newRevId t).trans (a.record.insertSet_eq_place p.newRevId t))
      p.inserts (p.updates.toList.map fun e r => r.placeById e)
    with ⟨inserted, afterInserts, restInserts⟩
  rcases afterInserts.foldl (fun e r => r.placeById e)
      (fun e reports => reports.updateOrStore p.pageId e)
      (fun a e => (a.record_updateOrStore p.pageId p.newRevId e.1 e.2.1 e.2.2).trans
        (a.record.updateSet_eq_place p.newRevId e)) p.updates.toList []
    with ⟨updated, afterUpdates, restUpdates⟩
  have all : p.updatedSets r = inserted ++ updated := by
    rw [List.append_nil] at restUpdates
    rw [updatedSets, places, ← afterDeletes, restInserts, restUpdates]
    simp [PageRecord.writtenOver]
  rw [List.nil_append] at afterUpdates
  rw [all, apply]
  -- the time of writing is not part of what the report tells
  split
  · exact afterUpdates
  · exact ⟨afterUpdates.idsBelow, afterUpdates.counted, afterUpdates.current, afterUpdates.stale⟩

/-- What one of several plans does to the revisions of a record, and what it reports. -/
structure MovesForward (r : PageRecord) (earlier : List (Plan × Timestamp)) (p : Plan)
    (now : Timestamp) : Prop where
  kept : ∀ id s s', (r.afterAll earlier).sets.find? id = some s →
    (p.apply now (r.afterAll earlier)).record.sets.find? id = some s' →
    s'.name = s.name ∧ s.revId ≤ s'.revId
  fresh : ∀ id s', (r.afterAll earlier).sets.find? id = none →
    (p.apply now (r.afterAll earlier)).record.sets.find? id = some s' →
    ∀ done, done <+: earlier → ∀ other s, (r.afterAll done).sets.find? other = some s → other < id
  nextSetId_le : (r.afterAll earlier).nextSetId ≤
    (p.apply now (r.afterAll earlier)).record.nextSetId
  reports : (p.apply now (r.afterAll earlier)).Reports p.newRevId
    (p.updatedSets (r.afterAll earlier))

/-- Whatever plans were applied before, the next one moves revisions and identifiers forward. -/
theorem movesForward_of_idsBelow (r : PageRecord) (below : r.IdsBelow)
    (earlier : List (Plan × Timestamp)) (p : Plan) (now : Timestamp) :
    p.MovesForward r earlier now := by
  have current := below.afterAll earlier
  refine ⟨?_, ?_, ?_, reports_apply current p now⟩
  · intro id s s' before after
    rcases apply_stored current now before with ⟨-, gone⟩ | ⟨-, t, found, named, revised, -⟩
    · rw [gone] at after
      cases after
    · rw [found] at after
      cases after
      exact ⟨named, revised⟩
  · intro id s' absent found done started other s used
    exact Nat.lt_of_lt_of_le (below.lt_nextSetId_of_prefix started used)
      (apply_fresh current now absent found).1
  · exact (current.descends.apply current p now).nextSetId_le

/-- A plan made by hand; one set is written by name and by identifier, one was deleted. -/
def handMade : Plan where
  pageId := 5
  newRevId := 3
  inserts := [
    { name := "b", vars := .ofList [("x", .text "3")] },
    { name := "a", vars := .ofList [("x", .text "3")] }]
  updates := .ofList [
    (1, { name := "a", vars := .ofList [] }, { name := "a", vars := .ofList [("y", .text "3")] })]

/-- The set that is written twice is stale by the second time, and no identifier is used again. -/
theorem movesForward_handMade :
    let now : Timestamp := ⟨2024, 1, 1, 0, 0, 0, 0⟩
    let earlier := [(between (some twoSets.toCollection) (some changedAndNew), now)]
    let applied := handMade.apply now (twoSets.afterAll earlier)
    twoSets.IdsBelow ∧ handMade.MovesForward twoSets earlier now ∧
      applied.record.sets.toList.map (fun e => (e.1, e.2.name, e.2.revId)) =
        [(1, "a", 3), (3, "c", 2), (4, "b", 3)] ∧
      handMade.updatedSets (twoSets.afterAll earlier) = [1, 1] ∧
      applied.report.staleSets.keys = [1] := by
  intro now earlier applied
  have below : twoSets.IdsBelow := by decide
  exact ⟨below, movesForward_of_idsBelow twoSets below earlier handMade now, by decide, by decide,
    by decide⟩

end Plan

end TemplateVars
