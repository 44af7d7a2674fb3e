import TemplateVars.Scope.Tree

/-!
# Looking up variables

A variable is looked up in a frame and, if asked for, in the frames that
enclose it; the nearest frame that holds the name answers. A variable that is
nowhere is no error.
-/

namespace TemplateVars.Tree

/-- The key under which a frame of the tree holds a name itself. -/
def locateLocal (t : Tree) (id : FrameId) (name : String) (anyCase : Bool) : Option Key :=
  (t.frame? id).bind (·.locate name anyCase)

/-- The nearest of some frames that holds a name, with the key it holds it under. -/
def locateIn (t : Tree) (name : String) (anyCase : Bool) : List FrameId → Option (FrameId × Key)
  | [] => none
  | id :: rest =>
    match t.locateLocal id name anyCase with
    | some key => some (id, key)
    | none => locateIn t name anyCase rest

/-- The frame and key that hold a name as seen from a frame. -/
def locate (t : Tree) (id : FrameId) (name : String) (anyCase upward : Bool) :
    Option (FrameId × Key) :=
  t.locateIn name anyCase (if upward then t.ancestors id else [id])

/-- The text of a variable as seen from a frame. -/
def get (t : Tree) (id : FrameId) (name : String) (anyCase upward : Bool) :
    Expanding (Option String) :=
  match t.locate id name anyCase upward with
  | some (owner, key) => t.text owner key
  | none => pure none

end TemplateVars.Tree
