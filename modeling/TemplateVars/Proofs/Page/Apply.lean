import TemplateVars.Page.Apply
import TemplateVars.Proofs.Page.Record
import TemplateVars.Proofs.Page.RowDiff

/-!
# What applying a plan does to the record

Applying a plan keeps a report and warnings beside the record. What becomes of
the record does not depend on them: first sets go, then each set to insert is
written over the set of its name or stored anew, then each set to update is
written over the set of its identifier or stored anew. After the deletes there
are only two kinds of writes, and `Plan.Writes` says what each of them can do.
-/

namespace TemplateVars

/-- A stored set with the rows between two forms of a set written into it. -/
def StoredSet.rewritten (s : StoredSet) (rev : RevId) (old new : VariableSet) : StoredSet :=
  { s with vars := (RowDiff.between old new).applyTo s.vars, revId := max s.revId rev }

/-- A set as it is first stored. -/
def VariableSet.toStored (s : VariableSet) (rev : RevId) : StoredSet :=
  { name := s.name, revId := rev, vars := s.vars }

@[simp]
theorem StoredSet.name_rewritten (s : StoredSet) (rev : RevId) (old new : VariableSet) :
    (s.rewritten rev old new).name = s.name := rfl

/-- Over rows that are those of the old form, rewriting leaves the rows of the new form. -/
theorem StoredSet.vars_rewritten_of_eq {s : StoredSet} {rev : RevId} {old new : VariableSet}
    (current : old.vars = s.vars) : (s.rewritten rev old new).vars = new.vars := by
  rw [rewritten, ← current]
  exact RowDiff.applyTo_between_self old new

namespace PageRecord

/-- The record without some stored sets. -/
def without (r : PageRecord) (ids : List SetId) : PageRecord :=
  { r with sets := ids.foldl (·.erase ·) r.sets }

/-- The record with rows written into the stored set of an identifier, if there is one. -/
def rewrite (r : PageRecord) (rev : RevId) (id : SetId) (old new : VariableSet) : PageRecord :=
  match r.sets.find? id with
  | none => r
  | some s => { r with sets := r.sets.insert id (s.rewritten rev old new) }

/-- The record with a set written over the stored set of its name, or stored anew. -/
def insertSet (r : PageRecord) (rev : RevId) (s : VariableSet) : PageRecord :=
  match r.findByName? s.name with
  | some (id, stored) => r.rewrite rev id (asVariableSet id stored) s
  | none => r.storeNew (s.toStored rev)

/-- The record with a set written over the stored set of an identifier, or stored anew. -/
def updateSet (r : PageRecord) (rev : RevId) (id : SetId) (old new : VariableSet) : PageRecord :=
  if r.sets.contains id then r.rewrite rev id old new else r.storeNew (new.toStored rev)

theorem find?_without (r : PageRecord) (ids : List SetId) (id : SetId) :
    (r.without ids).sets.find? id = if id ∈ ids then none else r.sets.find? id :=
  SortedMap.find?_foldl_erase ids r.sets id

theorem find?_storeNew (r : PageRecord) (s : StoredSet) (id : SetId) :
    (r.storeNew s).sets.find? id =
      if id = r.nextSetId then some s else r.sets.find? id :=
  SortedMap.find?_insert ..

theorem rewrite_of_stored {r : PageRecord} {id : SetId} {s : StoredSet}
    (stored : r.sets.find? id = some s) (rev : RevId) (old new : VariableSet) :
    r.rewrite rev id old new = { r with sets := r.sets.insert id (s.rewritten rev old new) } := by
  simp [rewrite, stored]

theorem find?_rewrite (r : PageRecord) (rev : RevId) (id other : SetId) (old new : VariableSet) :
    (r.rewrite rev id old new).sets.find? other =
      if other = id then (r.sets.find? id).map (·.rewritten rev old new)
      else r.sets.find? other := by
  cases stored : r.sets.find? id with
  | none =>
      simp only [rewrite, stored]
      split <;> simp_all
  | some s => simp [rewrite_of_stored stored]

@[simp]
theorem nextSetId_rewrite (r : PageRecord) (rev : RevId) (id : SetId) (old new : VariableSet) :
    (r.rewrite rev id old new).nextSetId = r.nextSetId := by
  unfold rewrite
  split <;> rfl

theorem updateSet_of_stored {r : PageRecord} {id : SetId} {s : StoredSet}
    (stored : r.sets.find? id = some s) (rev : RevId) (old new : VariableSet) :
    r.updateSet rev id old new = r.rewrite rev id old new := by
  simp [updateSet, SortedMap.contains, stored]

theorem updateSet_of_gone {r : PageRecord} {id : SetId} (gone : r.sets.find? id = none)
    (rev : RevId) (old new : VariableSet) :
    r.updateSet rev id old new = r.storeNew (new.toStored rev) := by
  simp [updateSet, SortedMap.contains, gone]

theorem insertSet_of_absent {r : PageRecord} {s : VariableSet} (absent : ¬r.HasName s.name)
    (rev : RevId) : r.insertSet rev s = r.storeNew (s.toStored rev) := by
  simp [insertSet, findByName?_eq_none.2 absent]

end PageRecord

namespace Applied

theorem record_delete (a : Applied) (id : SetId) :
    (a.delete id).record = a.record.without [id] := by
  unfold delete
  split
  · rename_i absent
    have same : a.record.sets.erase id = a.record.sets := by
      apply SortedMap.ext_find?
      intro key
      rw [SortedMap.find?_erase]
      split <;> simp_all
    simp [PageRecord.without, same]
  · rfl

theorem record_update (a : Applied) (rev : RevId) (id : SetId) (old new : VariableSet) :
    (a.update rev id old new).record = a.record.rewrite rev id old new := by
  cases stored : a.record.sets.find? id with
  | none => simp [update, PageRecord.rewrite, stored]
  | some s => simp [update, PageRecord.rewrite, stored, StoredSet.rewritten]

theorem record_insert (a : Applied) (rev : RevId) (s : VariableSet) :
    (a.insert rev s).record = a.record.insertSet rev s := by
  cases found : a.record.findByName? s.name with
  | none => simp [insert, PageRecord.insertSet, found, store, VariableSet.toStored]
  | some e => simp [insert, PageRecord.insertSet, found, record_update]

theorem record_updateOrStore (a : Applied) (page : PageId) (rev : RevId) (id : SetId)
    (old new : VariableSet) :
    (a.updateOrStore page rev id old new).record = a.record.updateSet rev id old new := by
  unfold updateOrStore PageRecord.updateSet
  split
  · exact a.record_update rev id old new
  · rfl

/-- A fold of changes acts on the record as the fold of what each change does to it. -/
theorem record_foldl {γ : Type} {change : Applied → γ → Applied}
    {effect : PageRecord → γ → PageRecord}
    (each : ∀ a c, (change a c).record = effect a.record c) (changes : List γ) (a : Applied) :
    (changes.foldl change a).record = changes.foldl effect a.record := by
  induction changes generalizing a with
  | nil => rfl
  | cons c changes ih => rw [List.foldl_cons, List.foldl_cons, ih, each]

end Applied

namespace Plan

variable (p : Plan)

/-- The record once the sets to delete are gone. -/
def afterDeletes (r : PageRecord) : PageRecord := r.without p.deletes.keys

/-- The record once the sets to insert are written, too. -/
def afterInserts (r : PageRecord) : PageRecord :=
  p.inserts.foldl (·.insertSet p.newRevId ·) (p.afterDeletes r)

/-- The record with some of the sets to update written. -/
def withUpdates (r : PageRecord) (updates : List (SetId × VariableSet × VariableSet)) :
    PageRecord :=
  updates.foldl (fun r e => r.updateSet p.newRevId e.1 e.2.1 e.2.2) r

/-- The record once all of the plan is written. -/
def afterUpdates (r : PageRecord) : PageRecord :=
  p.withUpdates (p.afterInserts r) p.updates.toList

theorem record_deletes (ids : List SetId) (a : Applied) :
    (ids.foldl (fun a id => a.delete id) a).record = a.record.without ids := by
  induction ids generalizing a with
  | nil => rfl
  | cons id ids ih =>
      rw [List.foldl_cons, ih, Applied.record_delete]
      rfl

/-- Apart from the time of writing, applying a plan leaves what its three phases leave. -/
theorem record_apply (now : Timestamp) (r : PageRecord) :
    (p.apply now r).record =
      { p.afterUpdates r with
        updatedAt := if p.isEmpty then (p.afterUpdates r).updatedAt else some now } := by
  let deleted : Applied := p.deletes.keys.foldl (fun a id => a.delete id) { record := r }
  let inserted : Applied := p.inserts.foldl (fun a s => a.insert p.newRevId s) deleted
  let updated : Applied := p.updates.toList.foldl
    (fun a e => a.updateOrStore p.pageId p.newRevId e.1 e.2.1 e.2.2) inserted
  have phases : updated.record = p.afterUpdates r := by
    have afterDeletes : deleted.record = p.afterDeletes r := record_deletes ..
    have afterInserts : inserted.record = p.afterInserts r := by
      rw [afterInserts, ← afterDeletes]
      exact Applied.record_foldl (fun a s => a.record_insert p.newRevId s) ..
    rw [afterUpdates, ← afterInserts]
    exact Applied.record_foldl
      (fun a e => a.record_updateOrStore p.pageId p.newRevId e.1 e.2.1 e.2.2) ..
  have unfolded : p.apply now r =
      if p.isEmpty then updated
      else { updated with record := { updated.record with updatedAt := some now } } := rfl
  rw [unfolded]
  split
  · rw [phases]
  · simp only [phases]

theorem sets_apply (now : Timestamp) (r : PageRecord) :
    (p.apply now r).record.sets = (p.afterUpdates r).sets := by
  rw [record_apply]

theorem nextSetId_apply (now : Timestamp) (r : PageRecord) :
    (p.apply now r).record.nextSetId = (p.afterUpdates r).nextSetId := by
  rw [record_apply]

end Plan

end TemplateVars
