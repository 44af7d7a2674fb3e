import TemplateVars.Scope.Frame
import TemplateVars.Scope.Node

/-!
# Frame trees

A page render owns one tree of frames. The page is frame 0; opening a template
adds a frame beneath one that exists, so parents come before their children.
Next to the frames the tree keeps every node that was ever bound: a handle
points into that list, and rebinding a key changes the node it points to, which
is what the holder of the handle sees.
-/

namespace TemplateVars

/-- The arguments of a template invocation, as the host hands them over. -/
structure Arguments where
  /-- Unnamed arguments, numbered from one. -/
  positional : List Node
  /-- Named arguments, kept under their literal names even when these are digits. -/
  named : List (String × Node)

/-- What can go wrong with a frame. -/
inductive FrameError where
  | notFound (frame : FrameId)
  deriving DecidableEq

/-- The text of a frame error. -/
def FrameError.message : FrameError → String
  | .notFound frame =>
    "FRAME_NOT_FOUND: frame #" ++ toString frame ++ " does not exist in this render tree"

/-- The frames of one page render. -/
structure Tree where
  /-- The frames in the order they were opened. -/
  frames : Array Frame
  /-- The nodes in the order they were first bound. -/
  nodes : Array Node
  /-- The host's expansion of markup. -/
  expander : Expander

namespace Tree

/-- The tree of a page that is about to be rendered. -/
def ofPage (title : String) (expander : Expander) : Tree where
  frames := #[{ depth := 0, parent := none, title }]
  nodes := #[]
  expander

/-- The frame of the page itself. -/
def root : FrameId := 0

/-- A frame of the tree. -/
def frame? (t : Tree) (id : FrameId) : Option Frame := t.frames[id]?

/-- The frame that encloses a frame. -/
def parent? (t : Tree) (id : FrameId) : Option FrameId := (t.frame? id).bind (·.parent)

/-- Whether a frame is that of the page rendered directly. -/
def isTopLevel (t : Tree) (id : FrameId) : Bool := (t.frame? id).any (·.parent.isNone)

/-- A frame followed by the frames that enclose it, innermost first. -/
def ancestors (t : Tree) (id : FrameId) : List FrameId :=
  match t.frame? id with
  | none => []
  | some f =>
    id :: match f.parent with
      | none => []
      | some p => if p < id then ancestors t p else []

/-- Open a template frame beneath `parent`. -/
def push (t : Tree) (parent : FrameId) (title : String) (args : Arguments) :
    Except FrameError (FrameId × Tree) :=
  match t.frame? parent with
  | none => .error (.notFound parent)
  | some enclosing =>
    let positional := args.positional.take Key.maxPosition
    let first := t.nodes.size
    let firstNamed := first + positional.length
    let numbered := positional.zipIdx.map fun e => (e.2 + 1, first + e.2)
    let named := args.named.zipIdx.map fun e => (e.1.1, firstNamed + e.2)
    let frame : Frame :=
      { depth := enclosing.depth + 1, parent := some parent, title
        numbered := .ofList numbered, named := .ofList named }
    .ok (t.frames.size,
      { t with
        frames := t.frames.push frame
        nodes := t.nodes ++ positional.toArray ++ (args.named.map (·.2)).toArray })

/-- The handle that is bound at a key of a frame. -/
def ref? (t : Tree) (id : FrameId) (key : Key) : Option NodeRef := (t.frame? id).bind (·.ref? key)

/-- The text that is known for a key of a frame. -/
def cached? (t : Tree) (id : FrameId) (key : Key) : Option String :=
  (t.frame? id).bind (·.cached? key)

/-- What is bound at a key of a frame. -/
def binding? (t : Tree) (id : FrameId) (key : Key) : Option Binding :=
  (t.frame? id).bind (·.binding? key)

/-- The node bound at a key of a frame. -/
def node? (t : Tree) (id : FrameId) (key : Key) : Option Node :=
  (t.ref? id key).bind fun ref => t.nodes[ref]?

/-- The text of a node under the tree's expander. -/
def expand (t : Tree) (node : Node) : Expanding String := t.expander.expand node

/-- The text of a key: the one that is known already, else the expansion of its node. -/
def text (t : Tree) (id : FrameId) (key : Key) : Expanding (Option String) :=
  match t.cached? id key with
  | some known => pure (some known)
  | none =>
    match t.node? id key with
    | some node => some <$> t.expand node
    | none => pure none

/-- Change the bindings of a frame. -/
def modifyFrame (t : Tree) (id : FrameId) (change : Frame → Frame) : Except FrameError Tree :=
  if id < t.frames.size then .ok { t with frames := t.frames.modify id change }
  else .error (.notFound id)

/--
Bind a node and its text at a key of a frame. A key that is bound keeps its
handle, and the node behind the handle changes; a new key gets a new handle.
-/
def bind (t : Tree) (id : FrameId) (key : Key) (node : Node) (text : String) :
    Except FrameError Tree :=
  match t.ref? id key with
  | some ref =>
    { t with nodes := t.nodes.setIfInBounds ref node }.modifyFrame id (·.keepText key text)
  | none =>
    { t with nodes := t.nodes.push node }.modifyFrame id
      fun f => (f.insert key t.nodes.size).keepText key text

/-- Overwrite the node behind a handle; cached text stays as it is. -/
def poke (t : Tree) (ref : NodeRef) (node : Node) : Tree :=
  { t with nodes := t.nodes.setIfInBounds ref node }

end Tree

end TemplateVars
