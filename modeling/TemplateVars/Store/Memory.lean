import TemplateVars.Store.Gateway

/-!
# Pages in memory

A store that keeps page records in memory, for previews and for trying things
out. A page whose last set goes is forgotten.
-/

namespace TemplateVars

/-- The stored pages. -/
structure MemoryStore where
  pages : SortedMap PageId PageRecord := ∅
  deriving DecidableEq

namespace MemoryStore

/-- The stored record of a page. -/
def record? (m : MemoryStore) (page : PageId) : Option PageRecord := m.pages.find? page

/-- The stored pages in ascending order. -/
def pageIds (m : MemoryStore) : List PageId := m.pages.keys

/-- Apply a plan to the record of its page. -/
def save (m : MemoryStore) (p : Plan) (now : Timestamp) : SaveOutcome × MemoryStore :=
  if p.isEmpty then ({}, m)
  else
    let applied := p.apply now ((m.record? p.pageId).getD { pageId := p.pageId })
    let pages :=
      if applied.record.sets.isEmpty then m.pages.erase p.pageId
      else m.pages.insert p.pageId applied.record
    ({ report := applied.report, warnings := applied.warnings }, { m with pages })

/-- The store as a gateway; none of its operations fails. -/
def gateway : Gateway MemoryStore where
  loadSets page := return ((← get).record? page).map (·.toCollection)
  loadFiltered page set names := return ((← get).record? page).bind (·.filtered set names)
  savePlan p now := modifyGet (·.save p now)
  deleteAll page := modifyGet fun m =>
    (m.pages.contains page, { m with pages := m.pages.erase page })

end MemoryStore

end TemplateVars
