import TemplateVars.Proofs.Render.InPlace
import TemplateVars.Proofs.Scope.Rooted

/-!
# The way up in the course of a render

A host opens frames, changes bindings and writes through handles, and some of
its requests fail. Only a frame that is opened changes where frames stand, and it
comes one step beneath a frame that is there. So at any time the way up from any
frame leads to the page, however many requests have been made and whatever
became of them.
-/

namespace TemplateVars

open TemplateVars.Action TemplateVars.Tree

namespace InPlace

variable {id : FrameId}

theorem keeps_local (call : VerbCall) (id : FrameId) : Keeps SamePlaces (runLocal call id) := by
  rw [runLocal]
  split
  · exact keeps_pure false
  · have sets : Keeps SamePlaces (do set id call.name call.valueNode; return true) :=
      (keeps_set id _ _).bind fun _ => keeps_pure true
    split
    · exact (keeps_unset id call.name true false).bind fun _ => sets
    · exact (keeps_pure false).bind fun _ => sets

theorem keeps_respell (id : FrameId) (existing name : String) :
    Keeps SamePlaces (respell id existing name) := by
  refine keeps_get.bind fun t => ?_
  split
  · exact (keeps_modifyFrame fun f => f.place_erase _).bind fun _ => keeps_bind id _ _ _
  · exact keeps_pure ()

theorem keeps_define (call : VerbCall) (id : FrameId) : Keeps SamePlaces (runDefine call id) := by
  rw [runDefine]
  split
  · exact keeps_pure false
  · refine keeps_get.bind fun t => ?_
    cases t.locateLocal id call.name call.options.anyCase with
    | none => exact (keeps_set id _ _).bind fun _ => keeps_pure true
    | some key =>
        cases key with
        | numbered n => exact keeps_pure false
        | named existing =>
            simp only
            split
            · exact (keeps_respell id existing call.name).bind fun _ => keeps_pure false
            · exact keeps_pure false

theorem keeps_preview (call : VerbCall) (id : FrameId) :
    Keeps SamePlaces (runPreview call id) := by
  refine keeps_get.bind fun t => ?_
  split
  · exact keeps_define call id
  · exact keeps_pure false

theorem keeps_unsetAll (anyCase shift : Bool) (id : FrameId) (names : List String) :
    Keeps SamePlaces (unsetAll anyCase shift id names) := by
  induction names with
  | nil => exact keeps_pure 0
  | cons name names ih =>
      exact (keeps_unset id name anyCase shift).bind fun _ => ih.bind fun _ => keeps_pure _

theorem keeps_bindMissing (anyCase : Bool) (id : FrameId) (vars : List (String × Variable)) :
    Keeps SamePlaces (bindMissing anyCase id vars) := by
  induction vars with
  | nil => exact keeps_pure 0
  | cons e vars ih =>
      refine keeps_get.bind fun t => ?_
      split
      · exact ih
      · exact (keeps_set id _ _).bind fun _ => ih.bind fun _ => keeps_pure _

theorem keeps_runInherit (call : VerbCall) (id : FrameId) :
    Keeps SamePlaces (runInherit call id) := by
  rw [runInherit]
  split
  · exact keeps_inherit id call.names call.options.anyCase
  · exact keeps_pure 0

theorem keeps_runReturn (call : VerbCall) (id : FrameId) :
    Keeps SamePlaces (runReturn call id) := by
  rw [runReturn]
  split
  · exact keeps_returnTo id call.names call.options.anyCase
  · exact keeps_pure 0

theorem keeps_runUnset (call : VerbCall) (id : FrameId) : Keeps SamePlaces (runUnset call id) := by
  rw [runUnset]
  split
  · exact keeps_unsetAll call.options.anyCase call.options.shift id call.names
  · exact keeps_pure 0

theorem samePlaces_load {σ : Type} (e : Engine σ) (call : VerbCall) (id : FrameId) (page : PageId)
    (state : σ) (t : Tree) : t.SamePlaces (load e call id page state t).2 := by
  rw [load]
  split
  · rfl
  · split
    · rfl
    · rfl
    · exact keeps_bindMissing call.options.anyCase id _ t

end InPlace

open InPlace

variable {t t' : Tree}

/-- To open a frame is the one call that changes where frames stand. -/
theorem Call.rooted_perform (rooted : t.Rooted) (c : Call) : (c.perform t).2.Rooted := by
  cases c with
  | push parent title args =>
      have settles := settles_push t parent title args
      change ((InPlace.push parent title args).run.run t).2.Rooted
      cases opened : t.push parent title args with
      | error e =>
          rw [opened] at settles
          cases settles with
          | refused missing ran =>
              rw [ran]
              exact rooted
      | ok p =>
          rw [opened] at settles
          cases settles with
          | done ran there =>
              rw [ran]
              exact rooted.push opened
  | set frame name node => exact rooted.of_samePlaces (keeps_set frame name node t)
  | unset frame name anyCase shift =>
      exact rooted.of_samePlaces (keeps_unset frame name anyCase shift t)
  | inherit frame names anyCase =>
      exact rooted.of_samePlaces (keeps_inherit frame names anyCase t)
  | returnTo frame names anyCase =>
      exact rooted.of_samePlaces (keeps_returnTo frame names anyCase t)
  | define call frame => exact rooted.of_samePlaces (keeps_define call frame t)
  | «local» call frame => exact rooted.of_samePlaces (keeps_local call frame t)
  | preview call frame => exact rooted.of_samePlaces (keeps_preview call frame t)
  | load e call frame page state =>
      exact rooted.of_samePlaces (samePlaces_load e call frame page state t)

theorem Request.rooted_perform (rooted : t.Rooted) (r : Request) : (r.perform t).2.Rooted := by
  cases r with
  | ofCall c => exact c.rooted_perform rooted
  | inherit call frame => exact rooted.of_samePlaces (keeps_runInherit call frame t)
  | returnTo call frame => exact rooted.of_samePlaces (keeps_runReturn call frame t)
  | unset call frame => exact rooted.of_samePlaces (keeps_runUnset call frame t)

namespace Tree

theorem Occurs.rooted (occurs : Occurs t t') (rooted : t.Rooted) : t'.Rooted := by
  cases occurs with
  | request r => exact r.rooted_perform rooted
  | poke ref node => exact rooted.of_samePlaces rfl

/--
Whatever has been asked of a tree, its frames are rooted in the page. Going up
from any of them ends after as many turns as it is deep, at the page, and a
look-up upward reads what the nearest of the frames on the way holds itself.
-/
theorem ascends_of_occurs {title : String} {expander : Expander}
    (run : Relation.ReflTransGen Occurs (ofPage title expander) t) :
    t.Rooted ∧ ∀ id f, t.frame? id = some f →
      t.Ascent id f (t.ancestors id) ∧ t.AnswersNearest id (t.ancestors id) := by
  have order : (t.Separate ∧ t.Nested) ∧ t.Rooted := by
    induction run with
    | refl =>
        exact ⟨⟨(coherent_ofPage title expander).separate, nested_ofPage title expander⟩,
          rooted_ofPage title expander⟩
    | tail _ occurs ih => exact ⟨occurs.keeps ih.1, occurs.rooted ih.2⟩
  rcases order with ⟨⟨separate, -⟩, rooted⟩
  exact ⟨rooted, fun id f own => ⟨rooted.ascent own, separate.answersNearest id⟩⟩

/-- A name of the page, a frame beneath one that is missing, and two frames beneath others. -/
def deepening : List Request :=
  [.ofCall (.set root "x" (.text "p")),
    .ofCall (.push 7 "Nowhere" { positional := [], named := [] }),
    .ofCall (.push 1 "Inner" { positional := [.text "i"], named := [] }),
    .ofCall (.push root "Beside" { positional := [], named := [("x", .text "b")] })]

def deepened : Tree := deepening.foldl (fun t r => (r.perform t).2) opened

/-- From the innermost frame the name is read in the frame around it, before the page's own. -/
theorem ascends_deepened :
    Relation.ReflTransGen Occurs (ofPage "Page" shouting) deepened ∧
      (deepened.frame? 2).map (·.depth) = some 2 ∧ deepened.ancestors 2 = [2, 1, root] ∧
      (deepened.get 2 "x" false true).value = some "d!" ∧
      deepened.Rooted ∧
      ∃ f, deepened.frame? 2 = some f ∧ deepened.Ascent 2 f (deepened.ancestors 2) ∧
        deepened.AnswersNearest 2 (deepened.ancestors 2) := by
  let opening : Request := .ofCall (.push root "Template"
    { positional := [.text "a", .markup "b", .markup "c"], named := [("x", .markup "d")] })
  have opens : Relation.ReflTransGen Occurs (ofPage "Page" shouting) opened :=
    .single (.request opening)
  have run : Relation.ReflTransGen Occurs (ofPage "Page" shouting) deepened :=
    (((opens.tail (.request _)).tail (.request _)).tail (.request _)).tail (.request _)
  rcases ascends_of_occurs run with ⟨rooted, ascends⟩
  have there : (deepened.frame? 2).isSome := by decide +kernel
  rcases Option.isSome_iff_exists.1 there with ⟨f, own⟩
  exact ⟨run, by decide +kernel, by decide +kernel, by decide +kernel, rooted, f, own,
    ascends 2 f own⟩

end Tree

end TemplateVars
