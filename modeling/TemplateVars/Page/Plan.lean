import TemplateVars.Saved.Collection

/-!
# Planning what to store

A plan moves a page from its stored sets to the sets of a new render. Sets are
matched by name: a stored set that the render lacks is deleted, a new one is
inserted, and one on both sides is updated. When both sides hold the same sets
there is nothing to do.
-/

namespace TemplateVars

/-- The set-level operations that move a page to its new sets. -/
structure Plan where
  pageId : PageId := 0
  /-- The revision of the stored sets. -/
  oldRevId : RevId := 0
  /-- The revision of the new sets. -/
  newRevId : RevId := 0
  /-- Stored sets to delete, in ascending order. -/
  deletes : SortedMap SetId Unit := ∅
  /-- Sets to insert, in the order of their names. -/
  inserts : List VariableSet := []
  /-- Stored and new form of the sets to update. -/
  updates : SortedMap SetId (VariableSet × VariableSet) := ∅
  deriving DecidableEq

namespace Plan

/-- The number of set-level operations. -/
def total (p : Plan) : Nat := p.deletes.size + p.inserts.length + p.updates.size

/-- Whether there is nothing to store. -/
def isEmpty (p : Plan) : Bool := p.total == 0

/-- Stored sets whose names are gone; one without an identifier cannot be deleted. -/
def deletesBetween (old new : SetCollection) : SortedMap SetId Unit :=
  .ofList <| old.sets.keys.filterMap fun name =>
    if new.sets.contains name then none else (old.idOf? name).map fun id => (id, ())

/-- The stored form and identifier of a set, if the name is stored. -/
def counterpart? (old : SetCollection) (name : String) : Option (SetId × VariableSet) :=
  match old.sets.find? name, old.idOf? name with
  | some s, some id => some (id, s)
  | _, _ => none

/-- New sets without a stored counterpart. -/
def insertsBetween (old new : SetCollection) : List VariableSet :=
  (new.sets.toList.filter fun e => (counterpart? old e.1).isNone).map (·.2)

/-- New sets with their stored counterparts. -/
def updatesBetween (old new : SetCollection) : SortedMap SetId (VariableSet × VariableSet) :=
  .ofList <| new.sets.toList.filterMap fun (name, s) =>
    (counterpart? old name).map fun (id, stored) => (id, (stored, s))

/-- The plan between stored sets, if any, and the sets of a render, if any. -/
def between (old? new? : Option SetCollection) : Plan :=
  let pageId := ((new?.or old?).map (·.pageId)).getD 0
  let oldRevId := (old?.map (·.revId)).getD 0
  let newRevId := (new?.map (·.revId)).getD oldRevId
  let nothing : SetCollection := { pageId, revId := oldRevId }
  let old := old?.getD nothing
  let new := new?.getD nothing
  let unchanged : Plan := { pageId, oldRevId, newRevId }
  if old.sameSets new then unchanged
  else
    { unchanged with
      deletes := deletesBetween old new
      inserts := insertsBetween old new
      updates := updatesBetween old new }

end Plan

end TemplateVars
