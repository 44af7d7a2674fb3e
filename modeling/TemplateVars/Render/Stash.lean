import TemplateVars.Saved.Collection

/-!
# Render stashes

What a host keeps for the duration of one render: collections by key. The sets
saved so far are kept under a key of their own.
-/

namespace TemplateVars

/-- The key of the collection that a render is gathering. -/
def savedSetsKey : String := "wikivars-saved-sets"

/-- Collections kept for one render. -/
structure Stash where
  entries : SortedMap String SetCollection := ∅
  deriving DecidableEq

namespace Stash

/-- Whether nothing is kept. -/
def isEmpty (s : Stash) : Bool := s.entries.isEmpty

/-- The collection under a key. -/
def get? (s : Stash) (key : String) : Option SetCollection := s.entries.find? key

/-- Keep a collection under a key. -/
def put (s : Stash) (key : String) (c : SetCollection) : Stash :=
  { s with entries := s.entries.insert key c }

/-- Take the collection under a key out of the stash. -/
def take (s : Stash) (key : String) : Option SetCollection × Stash :=
  (s.get? key, { s with entries := s.entries.erase key })

end Stash

end TemplateVars
