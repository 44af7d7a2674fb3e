import TemplateVars.Scope.Update
import TemplateVars.Verb.Call

/-!
# Running verbs

What each verb does to the frame it is called in. A call whose conditions do
not hold, or that gives no name where one is needed, does nothing.
-/

namespace TemplateVars.VerbCall

/--
`local`: bind the value. With `case=any` other spellings of the name are
dropped first, so that the new binding is the only one.
-/
def runLocal (call : VerbCall) (t : Tree) (frame : FrameId) : TreeUpdate (Bool × Tree) :=
  if call.name = "" ∨ call.options.gateOpen = false then pure (false, t)
  else do
    let t ←
      if call.options.anyCase then
        (·.2) <$> TreeUpdate.ofExcept (t.unset frame call.name true false)
      else pure t
    let t ← t.set frame call.name call.valueNode
    return (true, t)

/-- Move what is bound under one spelling of a name to another, with its node and text. -/
def respell (t : Tree) (frame : FrameId) (existing name : String) : TreeUpdate Tree := do
  let node := t.node? frame (.named existing)
  let text ← t.text frame (.named existing)
  match node, text with
  | some node, some text =>
    TreeUpdate.ofExcept do
      let t ← t.modifyFrame frame (·.erase (.named existing))
      t.bind frame (Key.parse name) node text
  | _, _ => pure t

/--
`define`: bind the value unless the name is bound in this frame. When
`case=any` finds it under another spelling, the binding moves to the spelling
asked for and keeps its value.
-/
def runDefine (call : VerbCall) (t : Tree) (frame : FrameId) : TreeUpdate (Bool × Tree) :=
  if call.name = "" ∨ call.options.gateOpen = false then pure (false, t)
  else
    match t.locateLocal frame call.name call.options.anyCase with
    | none => (fun t => (true, t)) <$> t.set frame call.name call.valueNode
    | some (.numbered _) => pure (false, t)
    | some (.named existing) =>
      if call.options.anyCase ∧ existing ≠ call.name then
        (fun t => (false, t)) <$> respell t frame existing call.name
      else pure (false, t)

/-- `preview`: like `define`, but only on the page rendered directly. -/
def runPreview (call : VerbCall) (t : Tree) (frame : FrameId) : TreeUpdate (Bool × Tree) :=
  if t.isTopLevel frame then call.runDefine t frame else pure (false, t)

/-- `inherit`: pull each name from the enclosing frames, and count those found. -/
def runInherit (call : VerbCall) (t : Tree) (frame : FrameId) : TreeUpdate (Nat × Tree) :=
  if call.options.gateOpen then t.inherit frame call.names call.options.anyCase
  else pure (0, t)

/-- `return`: push each name into the enclosing frame, and count those found. -/
def runReturn (call : VerbCall) (t : Tree) (frame : FrameId) : TreeUpdate (Nat × Tree) :=
  if call.options.gateOpen then t.returnTo frame call.names call.options.anyCase
  else pure (0, t)

/-- Remove names one after another, and count those that were bound. -/
def unsetAll (anyCase shift : Bool) (frame : FrameId) (t : Tree) :
    List String → Except FrameError (Nat × Tree)
  | [] => .ok (0, t)
  | name :: rest => do
    let (bound, t) ← t.unset frame name anyCase shift
    let (removed, t) ← unsetAll anyCase shift frame t rest
    return (if bound then removed + 1 else removed, t)

/-- `unset`: remove each name, and count those that were bound. -/
def runUnset (call : VerbCall) (t : Tree) (frame : FrameId) : Except FrameError (Nat × Tree) :=
  if call.options.gateOpen then
    unsetAll call.options.anyCase call.options.shift frame t call.names
  else .ok (0, t)

end TemplateVars.VerbCall
