import TemplateVars.Proofs.Render.Calls

/-!
# The trees of a render

A render starts with the frame of its page and goes on by opening frames,
calling verbs and loading stored variables, in any order. Each of these keeps a
tree coherent, so all trees of a render are: what a variable reads as is always
what its node expands to, cached or not.
-/

namespace TemplateVars

open TreeUpdate

namespace Tree

variable {t t' : Tree}

/-- What a host does to the tree of a render. -/
inductive Step : Tree → Tree → Prop
  | push {t t' parent title args id} (ok : t.push parent title args = .ok (id, t')) : Step t t'
  | set {t t' id name node} (ok : Yields (t.set id name node) t') : Step t t'
  | unset {t t' id name anyCase shift removed}
      (ok : t.unset id name anyCase shift = .ok (removed, t')) : Step t t'
  | inherit {t t' id names anyCase n} (ok : Yields (t.inherit id names anyCase) (n, t')) : Step t t'
  | returnTo {t t' id names anyCase n} (ok : Yields (t.returnTo id names anyCase) (n, t')) :
      Step t t'
  | define {t t' id changed} {call : VerbCall} (ok : Yields (call.runDefine t id) (changed, t')) :
      Step t t'
  | «local» {t t' id changed} {call : VerbCall} (ok : Yields (call.runLocal t id) (changed, t')) :
      Step t t'
  | preview {t t' id changed} {call : VerbCall} (ok : Yields (call.runPreview t id) (changed, t')) :
      Step t t'
  | load {σ t t' id call page state n} (e : Engine σ)
      (ok : (e.load call t id page state).1.value = .ok (n, t')) : Step t t'

/-- The trees that a render comes to with an expander. -/
inductive Reachable (expander : Expander) : Tree → Prop
  | page (title : String) : Reachable expander (ofPage title expander)
  | step {t t' : Tree} (reached : Reachable expander t) (step : Step t t') : Reachable expander t'

theorem Step.exists_run? (step : Step t t') : ∃ c : Call, c.run? t = some t' := by
  have left {α : Type} {x : TreeUpdate (α × Tree)} {a : α} (ok : Yields x (a, t')) :
      (·.2) <$> x.run.value.toOption = some t' := by
    rw [Yields] at ok
    rw [ok]
    rfl
  cases step with
  | push ok => exact ⟨.push _ _ _, by rw [Call.run?, ok]; rfl⟩
  | set ok => exact ⟨.set _ _ _, congrArg Except.toOption ok⟩
  | unset ok => exact ⟨.unset _ _ _ _, by rw [Call.run?, ok]; rfl⟩
  | inherit ok => exact ⟨.inherit _ _ _, left ok⟩
  | returnTo ok => exact ⟨.returnTo _ _ _, left ok⟩
  | define ok => exact ⟨.define _ _, left ok⟩
  | «local» ok => exact ⟨.local _ _, left ok⟩
  | preview ok => exact ⟨.preview _ _, left ok⟩
  | load e ok => exact ⟨.load e _ _ _ _, by rw [Call.run?, ok]; rfl⟩

theorem Reachable.coherent {expander : Expander} (reached : Reachable expander t) :
    t.Coherent ∧ t.expander = expander := by
  induction reached with
  | page title => exact ⟨coherent_ofPage title expander, rfl⟩
  | step _ step ih =>
      rcases step.exists_run? with ⟨c, ran⟩
      rcases Call.exists_updates ran with ⟨id, updates⟩
      exact ⟨updates.coherent ih.1, updates.expander_eq.trans ih.2⟩

/-- Every text that a tree keeps is what a node that is bound expands to, and so is all it reads. -/
structure ReadsNodes (t : Tree) (expander : Expander) : Prop where
  cached : ∀ id key text, t.cached? id key = some text →
    ∃ ref node, t.ref? id key = some ref ∧ t.nodes[ref]? = some node ∧ text = expander.textOf node
  text : ∀ id key, (t.text id key).value = (t.node? id key).map expander.textOf
  get : ∀ id name anyCase upward,
    match t.locate id name anyCase upward with
    | some (owner, key) => ∃ node, t.node? owner key = some node ∧
        (t.get id name anyCase upward).value = some (expander.textOf node)
    | none => (t.get id name anyCase upward).value = none

/-- Whatever a render has done to its tree, reading it gives the texts of the bound nodes. -/
theorem readsNodes_of_reachable {expander : Expander} (reached : Reachable expander t) :
    t.ReadsNodes expander := by
  rcases reached.coherent with ⟨coherent, rfl⟩
  refine ⟨?_, value_text coherent, ?_⟩
  · intro id key text known
    rcases coherent.texts id key text known with ⟨node, bound, same⟩
    rcases Option.bind_eq_some_iff.1 bound with ⟨ref, own, points⟩
    exact ⟨ref, node, own, points, same⟩
  · intro id name anyCase upward
    rw [get]
    cases found : t.locate id name anyCase upward with
    | none => rfl
    | some place =>
        rcases place with ⟨owner, key⟩
        rcases coherent.exists_node found with ⟨node, bound⟩
        refine ⟨node, bound, ?_⟩
        rw [value_text coherent, bound]
        rfl

/-- Expands markup to itself and an exclamation mark. -/
def shouting : Expander := fun markup => markup ++ "!"

def opened : Tree :=
  match (ofPage "Page" shouting).push root "Template"
      { positional := [.text "a", .markup "b", .markup "c"], named := [("x", .markup "d")] } with
  | .ok (_, t) => t
  | .error _ => ofPage "Page" shouting

def rebound : Tree :=
  match (opened.set 1 "3" (.markup "e")).run.value with
  | .ok t => t
  | .error _ => opened

def closedUp : Tree :=
  match rebound.unset 1 "1" false true with
  | .ok (_, t) => t
  | .error _ => rebound

/-- A text that is known moves down with its argument, next to one whose text is not known. -/
theorem readsNodes_closedUp :
    Reachable shouting closedUp ∧ closedUp.ReadsNodes shouting ∧
      closedUp.get 1 "1" false false = ⟨some "b!", ["b"]⟩ ∧
      closedUp.get 1 "2" false false = ⟨some "e!", []⟩ := by
  have pushed : (ofPage "Page" shouting).push root "Template"
      { positional := [.text "a", .markup "b", .markup "c"], named := [("x", .markup "d")] } =
        .ok (1, opened) := rfl
  have set : Yields (opened.set 1 "3" (.markup "e")) rebound := rfl
  have unset : rebound.unset 1 "1" false true = .ok (true, closedUp) := rfl
  have reached : Reachable shouting closedUp :=
    (((Reachable.page "Page").step (.push pushed)).step (.set set)).step (.unset unset)
  exact ⟨reached, readsNodes_of_reachable reached, rfl, rfl⟩

end Tree

end TemplateVars
