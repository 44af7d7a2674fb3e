import TemplateVars.Proofs.Page.Outcome

/-!
# The time of writing

What a record was last written at decides nothing. Records that agree up to it
load alike, and plans that are applied to them at any times report the same and
leave records that agree up to it again.
-/

namespace TemplateVars

/-- The record with another time of writing. -/
def PageRecord.dated (r : PageRecord) (time : Option Timestamp) : PageRecord :=
  { r with updatedAt := time }

namespace Applied

/-- What a plan has done so far, to a record with another time of writing. -/
def dated (a : Applied) (time : Option Timestamp) : Applied :=
  { a with record := a.record.dated time }

variable (a : Applied) (time : Option Timestamp)

theorem delete_dated (id : SetId) : (a.dated time).delete id = (a.delete id).dated time := by
  cases found : a.record.sets.find? id <;> simp [delete, dated, PageRecord.dated, found]

theorem store_dated (rev : RevId) (s : VariableSet) :
    (a.dated time).store rev s = (a.store rev s).dated time := rfl

theorem update_dated (rev : RevId) (id : SetId) (old new : VariableSet) :
    (a.dated time).update rev id old new = (a.update rev id old new).dated time := by
  cases found : a.record.sets.find? id <;> simp [update, dated, PageRecord.dated, found]

theorem insert_dated (rev : RevId) (s : VariableSet) :
    (a.dated time).insert rev s = (a.insert rev s).dated time := by
  have same : (a.dated time).record.findByName? s.name = a.record.findByName? s.name := rfl
  rw [insert, insert, same]
  split
  · exact a.update_dated ..
  · exact a.store_dated ..

theorem updateOrStore_dated (page : PageId) (rev : RevId) (id : SetId) (old new : VariableSet) :
    (a.dated time).updateOrStore page rev id old new =
      (a.updateOrStore page rev id old new).dated time := by
  have same : (a.dated time).record.sets = a.record.sets := rfl
  rw [updateOrStore, updateOrStore, same]
  split
  · exact a.update_dated ..
  · rfl

variable {time} in
theorem foldl_dated {γ : Type} {change : Applied → γ → Applied}
    (each : ∀ a c, change (a.dated time) c = (change a c).dated time) (changes : List γ)
    (a : Applied) : changes.foldl change (a.dated time) = (changes.foldl change a).dated time :=
  List.foldl_hom (dated · time) each

end Applied

namespace Plan

variable (p : Plan) (now now' : Timestamp)

/-- Neither the time of writing nor the last one matters for what else a plan does. -/
theorem apply_dated (r : PageRecord) (time : Option Timestamp) :
    p.apply now' (r.dated time) =
      (p.apply now r).dated (if p.isEmpty then time else some now') := by
  let deleted (r : PageRecord) : Applied :=
    p.deletes.keys.foldl (fun a id => a.delete id) { record := r }
  let inserted (r : PageRecord) : Applied :=
    p.inserts.foldl (fun a s => a.insert p.newRevId s) (deleted r)
  let updated (r : PageRecord) : Applied := p.updates.toList.foldl
    (fun a e => a.updateOrStore p.pageId p.newRevId e.1 e.2.1 e.2.2) (inserted r)
  have afterDeletes : deleted (r.dated time) = (deleted r).dated time :=
    Applied.foldl_dated (fun a id => a.delete_dated time id) _ { record := r }
  have afterInserts : inserted (r.dated time) = (inserted r).dated time := by
    simp only [inserted, afterDeletes]
    exact Applied.foldl_dated (fun a s => a.insert_dated time p.newRevId s) ..
  have afterUpdates : updated (r.dated time) = (updated r).dated time := by
    simp only [updated, afterInserts]
    exact Applied.foldl_dated
      (fun a e => a.updateOrStore_dated time p.pageId p.newRevId e.1 e.2.1 e.2.2) ..
  have unfolded (r : PageRecord) (now : Timestamp) : p.apply now r =
      if p.isEmpty then updated r
      else { updated r with record := { (updated r).record with updatedAt := some now } } := rfl
  rw [unfolded, unfolded, afterUpdates]
  split <;> rfl

/-- Pages that hold the same up to the time of writing do so after a plan, too. -/
theorem outcome_dated (stored : Option PageRecord) (time : Option Timestamp) :
    ∃ time', p.outcome now' (stored.map (·.dated time)) =
      (p.outcome now stored).map (·.dated time') := by
  obtain ⟨time', same⟩ : ∃ time', (stored.map (·.dated time)).getD { pageId := p.pageId } =
      (stored.getD { pageId := p.pageId }).dated time' := by
    cases stored with
    | none => exact ⟨none, rfl⟩
    | some r => exact ⟨time, rfl⟩
  cases busy : p.isEmpty with
  | true =>
      rw [outcome_of_isEmpty busy, outcome_of_isEmpty busy]
      exact ⟨time, rfl⟩
  | false =>
      rw [outcome_of_busy busy now' same, outcome_of_busy busy now rfl, p.apply_dated now now']
      refine ⟨some now', ?_⟩
      have sets (a : Applied) (time : Option Timestamp) :
          (a.dated time).record.sets = a.record.sets := rfl
      rw [sets, busy]
      split <;> rfl

end Plan

end TemplateVars
