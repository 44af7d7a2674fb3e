import TemplateVars.Saved.Collection
import TemplateVars.Timestamp

/-!
# Page records

Everything stored for one page: its sets by identifier, the identifier that the
next new set gets, and when the record was last written. The names of the sets
of a well-formed record differ, but a record read from storage may be any.
-/

namespace TemplateVars

/-- One stored set with its variables. -/
structure StoredSet where
  name : String
  /-- The revision that the set was last stored for. -/
  revId : RevId
  vars : SortedMap String Variable
  deriving DecidableEq

/-- Everything stored for one page. -/
structure PageRecord where
  pageId : PageId
  sets : SortedMap SetId StoredSet := ∅
  /-- The identifier that the next new set gets. -/
  nextSetId : SetId := 1
  /-- When the record was last written. -/
  updatedAt : Option Timestamp := none
  deriving DecidableEq

namespace PageRecord

/-- A stored set in the form that renders use. -/
def asVariableSet (id : SetId) (s : StoredSet) : VariableSet :=
  { name := s.name, vars := s.vars, setId := some id }

/-- The newest revision of the stored sets. -/
def newestRevId (r : PageRecord) : RevId := r.sets.values.foldl (fun n s => max n s.revId) 0

/-- The stored sets as a collection at their newest revision; of equal names the last wins. -/
def toCollection (r : PageRecord) : SetCollection :=
  r.sets.toList.foldl (fun c e => c.insertStored e.1 (asVariableSet e.1 e.2))
    { pageId := r.pageId, revId := r.newestRevId }

/-- The stored set with a name; of equal names the one with the least identifier. -/
def findByName? (r : PageRecord) (name : String) : Option (SetId × StoredSet) :=
  r.sets.toList.find? fun e => e.2.name == name

/--
The variables of a stored set that are asked for, or all of them when no names
are given; `none` when the set is not stored.
-/
def filtered (r : PageRecord) (set : String) (names : List String) :
    Option (SortedMap String Variable) :=
  (r.findByName? (truncateName set)).map fun (_, s) =>
    if names.isEmpty then s.vars
    else .ofList <| names.filterMap fun n =>
      (s.vars.find? (truncateName n)).map fun v => (truncateName n, v)

/-- The number of stored variables over all sets. -/
def variableCount (r : PageRecord) : Nat :=
  r.sets.values.foldl (fun n s => n + s.vars.size) 0

/-- Store a new set under the next identifier. -/
def storeNew (r : PageRecord) (s : StoredSet) : PageRecord :=
  { r with sets := r.sets.insert r.nextSetId s, nextSetId := r.nextSetId + 1 }

end PageRecord

end TemplateVars
