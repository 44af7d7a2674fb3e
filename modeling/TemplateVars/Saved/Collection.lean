import TemplateVars.Saved.Name
import TemplateVars.Saved.Variable
import TemplateVars.SortedMap

/-!
# Variable sets and collections

Variables are saved together in named sets; the set with the empty name is the
default one. A collection holds the sets of one page, either as a render
gathers them or as they were loaded from storage.
-/

namespace TemplateVars

/-- Variables saved under one set name. -/
structure VariableSet where
  /-- The name of the set; empty for the default set. -/
  name : String
  vars : SortedMap String Variable
  /-- The identifier in storage, once there is one. -/
  setId : Option SetId := none
  deriving DecidableEq

namespace VariableSet

/-- An empty set; its name is cut to the width of storage keys. -/
def ofName (name : String) : VariableSet := { name := truncateName name, vars := ∅ }

/-- Add or replace a variable; its name is cut to the width of storage keys. -/
def insert (s : VariableSet) (name : String) (v : Variable) : VariableSet :=
  { s with vars := s.vars.insert (truncateName name) v }

/-- Add variables one after another. -/
def insertAll (s : VariableSet) (entries : List (String × Variable)) : VariableSet :=
  entries.foldl (fun s e => s.insert e.1 e.2) s

/-- The variable with exactly this name. -/
def get? (s : VariableSet) (name : String) : Option Variable := s.vars.find? name

/-- Same name and same variables, whatever the identifiers. -/
def sameVariables (s t : VariableSet) : Bool := s.name == t.name && s.vars == t.vars

end VariableSet

/-- The sets of one page. -/
structure SetCollection where
  pageId : PageId
  /-- The revision of the render, or the newest stored one. -/
  revId : RevId
  sets : SortedMap String VariableSet := ∅
  /-- The identifiers in storage by set name. -/
  setIds : SortedMap String SetId := ∅
  deriving DecidableEq

namespace SetCollection

/-- The set with a name, or the empty set that would be created for it. -/
def setOrNew (c : SetCollection) (name : String) : VariableSet :=
  let key := truncateName name
  (c.sets.find? key).getD (.ofName key)

/-- Change the set with a name; it is created empty on first use. -/
def modifySet (c : SetCollection) (name : String) (change : VariableSet → VariableSet) :
    SetCollection :=
  { c with sets := c.sets.insert (truncateName name) (change (c.setOrNew name)) }

/-- Add or replace a variable of a set. -/
def insert (c : SetCollection) (set name : String) (v : Variable) : SetCollection :=
  c.modifySet set (·.insert name v)

/-- The set with a name. -/
def get? (c : SetCollection) (name : String) : Option VariableSet :=
  c.sets.find? (truncateName name)

/-- A variable of a set. -/
def variableIn? (c : SetCollection) (set name : String) : Option Variable :=
  (c.get? set).bind (·.get? (truncateName name))

/-- Register a stored set together with its identifier, under the name it has. -/
def insertStored (c : SetCollection) (id : SetId) (s : VariableSet) : SetCollection :=
  { c with
    sets := c.sets.insert s.name { s with setId := some id }
    setIds := c.setIds.insert s.name id }

/-- Add several sets with their variables, each set created on first use. -/
def insertSets (c : SetCollection) (sets : List (String × List (String × Variable))) :
    SetCollection :=
  sets.foldl (fun c s => c.modifySet s.1 (·.insertAll s.2)) c

/-- The identifier of a set in storage. -/
def idOf? (c : SetCollection) (name : String) : Option SetId :=
  (c.setIds.find? name).or ((c.sets.find? name).bind (·.setId))

/-- The collection without all sets but one. -/
def only (c : SetCollection) (name : String) : SetCollection :=
  { c with
    sets := c.sets.filter fun key _ => key == name
    setIds := c.setIds.filter fun key _ => key == name }

/-- Same names in the same order with the same variables, whatever the identifiers. -/
def sameSets (c d : SetCollection) : Bool :=
  c.sets.size == d.sets.size &&
    (c.sets.toList.zip d.sets.toList).all fun (a, b) => a.1 == b.1 && a.2.sameVariables b.2

end SetCollection

end TemplateVars
