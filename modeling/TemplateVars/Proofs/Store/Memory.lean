import TemplateVars.Proofs.Page.Outcome
import TemplateVars.Store.Memory

/-!
# The store in memory, page by page

None of the operations of the store in memory fails, and each of them touches a
single page: loading changes nothing, saving a plan turns what its page holds
into the outcome of the plan, and deleting forgets the page.
-/

namespace TemplateVars.MemoryStore

theorem run_loadSets (page : PageId) (m : MemoryStore) :
    (gateway.loadSets page).run.run m = (.ok ((m.record? page).map (·.toCollection)), m) := rfl

theorem run_loadFiltered (page : PageId) (set : String) (names : List String) (m : MemoryStore) :
    (gateway.loadFiltered page set names).run.run m =
      (.ok ((m.record? page).bind (·.filtered set names)), m) := rfl

theorem run_savePlan (p : Plan) (now : Timestamp) (m : MemoryStore) :
    (gateway.savePlan p now).run.run m = (.ok (m.save p now).1, (m.save p now).2) := rfl

theorem run_deleteAll (page : PageId) (m : MemoryStore) :
    (gateway.deleteAll page).run.run m =
      (.ok (m.pages.contains page), { m with pages := m.pages.erase page }) := rfl

/-- Saving a plan turns what its page holds into the outcome of the plan. -/
theorem record?_save (m : MemoryStore) (p : Plan) (now : Timestamp) (page : PageId) :
    (m.save p now).2.record? page =
      if page = p.pageId then p.outcome now (m.record? page) else m.record? page := by
  by_cases nothing : p.isEmpty = true
  · simp [save, nothing, Plan.outcome_of_isEmpty]
  · rw [Bool.not_eq_true] at nothing
    set r := (p.apply now ((m.record? p.pageId).getD { pageId := p.pageId })).record with applied
    have saved : (m.save p now).2 = { m with
        pages :=
          if r.sets.isEmpty then m.pages.erase p.pageId else m.pages.insert p.pageId r } := by
      simp [save, nothing, applied]
    rw [Plan.outcome_of_busy nothing now rfl, saved]
    by_cases own : page = p.pageId
    · subst own
      rw [if_pos rfl, ← applied]
      cases r.sets.isEmpty <;> simp [record?]
    · rw [if_neg own]
      cases r.sets.isEmpty <;> simp [record?, own]

/-- Saving a plan for a page, or an empty one, turns what that page holds into its outcome. -/
theorem record?_save_of_own {p : Plan} {page : PageId}
    (own : p.isEmpty = true ∨ p.pageId = page) (m : MemoryStore) (now : Timestamp)
    (other : PageId) :
    (m.save p now).2.record? other =
      if other = page then p.outcome now (m.record? page) else m.record? other := by
  rw [record?_save]
  rcases own with nothing | rfl
  · rw [Plan.outcome_of_isEmpty nothing, Plan.outcome_of_isEmpty nothing, ite_self]
    split
    · rename_i same
      rw [same]
    · rfl
  · split
    · rename_i same
      rw [same]
    · rfl

/-- The record of a page, a new one if none is stored. -/
def recordOf (m : MemoryStore) (page : PageId) : PageRecord :=
  (m.record? page).getD { pageId := page }

theorem recordOf_eq_of_some {m : MemoryStore} {page : PageId} {r : PageRecord}
    (stored : m.record? page = some r) : m.recordOf page = r := by
  rw [recordOf, stored, Option.getD_some]

theorem recordOf_eq_of_none {m : MemoryStore} {page : PageId} (absent : m.record? page = none) :
    m.recordOf page = { pageId := page } := by
  rw [recordOf, absent, Option.getD_none]

/-- The record of a page is as every stored record of the page and every new one is. -/
theorem recordOf_induction {motive : PageRecord → Prop} {m : MemoryStore} {page : PageId}
    (new : motive { pageId := page }) (stored : ∀ r, m.record? page = some r → motive r) :
    motive (m.recordOf page) := by
  cases found : m.record? page with
  | none => rwa [recordOf_eq_of_none found]
  | some r =>
      rw [recordOf_eq_of_some found]
      exact stored r found

theorem record?_deleteAll (m : MemoryStore) (page other : PageId) :
    ({ m with pages := m.pages.erase page } : MemoryStore).record? other =
      if other = page then none else m.record? other :=
  SortedMap.find?_erase ..

/-- Every page holds nothing or a well-formed record of its own with some set. -/
def Sound (m : MemoryStore) : Prop := ∀ page, PageRecord.SoundFor page (m.record? page)

theorem sound_empty : Sound {} := by
  intro page r found
  cases found

theorem Sound.deleteAll {m : MemoryStore} (sound : m.Sound) (page : PageId) :
    Sound { m with pages := m.pages.erase page } := by
  intro other r found
  rw [record?_deleteAll] at found
  split at found
  · cases found
  · exact sound other r found

end TemplateVars.MemoryStore
