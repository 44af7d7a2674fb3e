import TemplateVars.Page.Apply
import TemplateVars.Store.Error

/-!
# Storage as a render sees it

A gateway is all that a render knows of storage: four operations over a state
of the gateway's own. That nothing is stored is a result, not an error.
-/

namespace TemplateVars

/-- An operation on stored pages; what it did before an error stays done. -/
abbrev StoreAction (σ α : Type) := ExceptT StoreError (StateM σ) α

/-- What saving a plan did, with the warnings raised on the way. -/
structure SaveOutcome where
  report : ApplyReport := {}
  warnings : List Warning := []
  deriving DecidableEq

/-- Storage of variable sets, over a state `σ`. -/
structure Gateway (σ : Type) where
  /-- Every stored set of a page, with identifiers. -/
  loadSets : PageId → StoreAction σ (Option SetCollection)
  /-- Variables of one stored set, restricted to some names unless there are none. -/
  loadFiltered : PageId → String → List String → StoreAction σ (Option (SortedMap String Variable))
  /-- Apply a plan to its page at a time of writing. -/
  savePlan : Plan → Timestamp → StoreAction σ SaveOutcome
  /-- Drop everything stored for a page, and tell whether there was anything. -/
  deleteAll : PageId → StoreAction σ Bool

end TemplateVars
