import TemplateVars.Scope.Lookup

/-!
# Setting, removing and copying variables

The updates of a tree. Each one changes a single frame: the one it is asked
for, or the enclosing one when variables are returned. They fail only for a
frame that the tree does not have.
-/

namespace TemplateVars

/-- An update of a tree: it can fail for a frame that is missing, and it can expand markup. -/
abbrev TreeUpdate (α : Type) := ExceptT FrameError Expanding α

/-- An update that expands nothing. -/
def TreeUpdate.ofExcept {α : Type} (x : Except FrameError α) : TreeUpdate α := ExceptT.mk (pure x)

namespace Tree

/-- Bind a name to a node; the text of the node is kept beside it. -/
def set (t : Tree) (id : FrameId) (name : String) (node : Node) : TreeUpdate Tree := do
  let text ← t.expand node
  TreeUpdate.ofExcept (t.bind id (Key.parse name) node text)

/-- Remove what is bound under a name, and tell whether anything was. -/
def unset (t : Tree) (id : FrameId) (name : String) (anyCase shift : Bool) :
    Except FrameError (Bool × Tree) :=
  match t.frame? id with
  | none => .error (.notFound id)
  | some f =>
    let (rest, bound) := f.unset name anyCase shift
    (t.modifyFrame id fun _ => rest).map fun t => (bound, t)

/-- Bind a copy of what one frame holds at a key under a name in another frame. -/
def copy (t : Tree) (source : FrameId × Key) (target : FrameId) (name : String) :
    TreeUpdate Tree := do
  match t.node? source.1 source.2 with
  | none => throw (.notFound source.1)
  | some node =>
    let text ← t.text source.1 source.2
    TreeUpdate.ofExcept (t.bind target (Key.parse name) node (text.getD ""))

/-- Copy each name that can be located into a frame, and count the names copied. -/
def copyAll (locate : Tree → String → Option (FrameId × Key)) (target : FrameId) (t : Tree) :
    List String → TreeUpdate (Nat × Tree)
  | [] => pure (0, t)
  | name :: rest => do
    match locate t name with
    | none => copyAll locate target t rest
    | some source =>
      let t ← t.copy source target name
      let (written, t) ← copyAll locate target t rest
      return (written + 1, t)

/-- Copy each name that is visible from the enclosing frame upward into a frame. -/
def inherit (t : Tree) (id : FrameId) (names : List String) (anyCase : Bool) :
    TreeUpdate (Nat × Tree) :=
  match t.frame? id with
  | none => throw (.notFound id)
  | some f =>
    match f.parent with
    | none => pure (0, t)
    | some parent => copyAll (fun t name => t.locate parent name anyCase true) id t names

/-- Copy each name that a frame itself binds into the enclosing frame. -/
def returnTo (t : Tree) (id : FrameId) (names : List String) (anyCase : Bool) :
    TreeUpdate (Nat × Tree) :=
  match t.frame? id with
  | none => throw (.notFound id)
  | some f =>
    match f.parent with
    | none => pure (0, t)
    | some parent => copyAll (fun t name => t.locate id name anyCase false) parent t names

end Tree

end TemplateVars
