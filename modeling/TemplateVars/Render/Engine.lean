import TemplateVars.Render.Stash
import TemplateVars.Store.Gateway
import TemplateVars.Verb.Run

/-!
# Rendering with stored variables

The verbs as a host calls them in the course of a render, wired to the features
that are switched on and to a gateway. Saving gathers variables in the stash,
loading binds stored ones that a frame lacks, and flushing stores what the
render has saved once it is done.
-/

namespace TemplateVars

/-- Families of verbs that can be switched off. -/
structure Features where
  /-- The verbs that define variables: `define`, `local`, `preview`. -/
  define : Bool := true
  /-- The verbs that store them, `save` and `load`, and flushing. -/
  data : Bool := true
  deriving DecidableEq

/-- The verbs, wired to features and storage. -/
structure Engine (σ : Type) where
  features : Features
  gateway : Gateway σ

/-- What became of the sets that a render saved. -/
inductive FlushOutcome where
  | disabled
  | unchanged
  | applied (outcome : SaveOutcome)
  deriving DecidableEq

/-- Why loading variables into a frame failed. -/
inductive LoadError where
  | frame (error : FrameError)
  | store (error : StoreError)
  deriving DecidableEq

namespace Engine

variable {σ : Type} (e : Engine σ)

/-- `define`, if switched on. -/
def define (call : VerbCall) (t : Tree) (frame : FrameId) : TreeUpdate (Bool × Tree) :=
  if e.features.define then call.runDefine t frame else pure (false, t)

/-- `local`, if switched on. -/
def «local» (call : VerbCall) (t : Tree) (frame : FrameId) : TreeUpdate (Bool × Tree) :=
  if e.features.define then call.runLocal t frame else pure (false, t)

/-- `preview`, if switched on. -/
def preview (call : VerbCall) (t : Tree) (frame : FrameId) : TreeUpdate (Bool × Tree) :=
  if e.features.define then call.runPreview t frame else pure (false, t)

/-- What a frame's own binding of a name is saved as, if there is one. -/
def capture (t : Tree) (frame : FrameId) (options : VerbOptions) (name : String) :
    Expanding (Option Variable) :=
  match t.locateLocal frame name options.anyCase with
  | none => pure none
  | some key =>
    if options.saveMarkup then pure ((t.node? frame key).map .ofNode)
    else (fun text => text.map .text) <$> t.text frame key

/-- What the bindings of some names are saved as; names that are not bound are passed over. -/
def captureAll (t : Tree) (frame : FrameId) (options : VerbOptions) :
    List String → Expanding (List (String × Variable))
  | [] => pure []
  | name :: rest => do
    let captured ← capture t frame options name
    let others ← captureAll t frame options rest
    return (captured.map fun v => (name, v)).toList ++ others

/--
`save`: copy variables that a frame binds into the collection that the render
is gathering, and count them. With `savemarkup` the unexpanded source is kept.
-/
def save (call : VerbCall) (t : Tree) (frame : FrameId) (page : PageId) (stash : Stash) :
    Expanding (Nat × Stash) :=
  if !e.features.data || !call.options.gateOpen then pure (0, stash)
  else do
    let captured ← captureAll t frame call.options call.names
    if captured.isEmpty then return (0, stash)
    let gathered := (stash.get? savedSetsKey).getD { pageId := page, revId := 0 }
    let gathered := gathered.modifySet (call.options.setName.getD "") (·.insertAll captured)
    return (captured.length, stash.put savedSetsKey gathered)

/-- Bind the variables that a frame lacks one after another, and count them. -/
def bindMissing (anyCase : Bool) (frame : FrameId) (t : Tree) :
    List (String × Variable) → TreeUpdate (Nat × Tree)
  | [] => pure (0, t)
  | (name, v) :: rest =>
    if (t.locateLocal frame name anyCase).isSome then bindMissing anyCase frame t rest
    else do
      let t ← t.set frame name v.toNode
      let (bound, t) ← bindMissing anyCase frame t rest
      return (bound + 1, t)

/-- `load`: bind stored variables of a page that a frame lacks, and count them. -/
def load (call : VerbCall) (t : Tree) (frame : FrameId) (page : PageId) (state : σ) :
    Expanding (Except LoadError (Nat × Tree)) × σ :=
  if !e.features.data || !call.options.gateOpen then (pure (.ok (0, t)), state)
  else
    let set := call.options.setName.getD ""
    match (e.gateway.loadFiltered page set call.names).run.run state with
    | (.error error, state) => (pure (.error (.store error)), state)
    | (.ok none, state) => (pure (.ok (0, t)), state)
    | (.ok (some vars), state) =>
      (Except.mapError .frame <$>
        (bindMissing call.options.anyCase frame t vars.toList).run, state)

/--
Store the sets that a render of a page saved, at a revision. They are taken out
of the stash first; a render that saved nothing removes what the page had
stored.
-/
def flush (stash : Stash) (page : PageId) (rev : RevId) (now : Timestamp) (state : σ) :
    Except StoreError FlushOutcome × Stash × σ :=
  if !e.features.data then (.ok .disabled, stash, state)
  else
    let (saved, stash) := stash.take savedSetsKey
    let new := saved.map fun c => { c with pageId := page, revId := rev }
    let (result, state) := (persist new).run.run state
    (result, stash, state)
where
  /-- Plan against what is stored, and save the plan unless it is empty. -/
  persist (new : Option SetCollection) : StoreAction σ FlushOutcome := do
    let old ← e.gateway.loadSets page
    let plan := Plan.between old new
    if plan.isEmpty then return .unchanged
    return .applied (← e.gateway.savePlan plan now)

/-- Forget everything stored for a page that is deleted. -/
def pageDeleted (page : PageId) : StoreAction σ Bool := e.gateway.deleteAll page

end Engine

end TemplateVars
