import TemplateVars.Proofs.Render.Isolation
import TemplateVars.Proofs.Scope.Lookup

/-!
# Setting and removing a variable

A frame keeps positions and names apart, and a name can be answered for by
several keys. All the same it acts as one store of variables: what is set is what
is read, what is removed was there and is gone, and no other name reads
differently, save the other spellings of a name that is removed in any case.
-/

namespace TemplateVars.Tree

open TreeUpdate

variable {t t' : Tree} {id : FrameId} {f f' : Frame} {name : String} {node : Node}
  {anyCase removed : Bool}

/-- A frame before and after a name is set to a node. -/
structure Assigns (t : Tree) (id : FrameId) (name : String) (node : Node) (t' : Tree) : Prop where
  own : ∀ anyCase upward,
    (t'.get id name anyCase upward).value = some (t.expander.textOf node)
  others : ∀ other ≠ name, t'.get id other false false = t.get id other false false

/-- A frame before and after a name is removed and no gap is closed. -/
structure Removes (t : Tree) (id : FrameId) (name : String) (anyCase removed : Bool) (t' : Tree) :
    Prop where
  removed_iff : removed = true ↔ (t.get id name anyCase false).value.isSome
  own : (t'.get id name anyCase false).value = none
  /-- In any case, and unless it is all digits, a name takes its other spellings with it. -/
  others : ∀ other ≠ name,
    (anyCase = true → Text.isDigits name = false → Text.lower other ≠ Text.lower name) →
      t'.get id other false false = t.get id other false false

theorem Binds.assigns {ref : NodeRef}
    (b : t.Binds id (Key.parse name) node (t.expander.textOf node) f ref t')
    (separate : t.Separate) : t.Assigns id name node t' where
  own := by
    intro anyCase upward
    have located := locateLocal_of_ref? b.isSome_ref? anyCase
    rw [get_of_locateLocal located, text, b.cached?_eq, if_pos ⟨rfl, rfl⟩]
    rfl
  others := by
    intro other different
    refine get_exactly_of_carries fun key answers => b.carries separate ?_
    rintro ⟨-, same⟩
    exact answers.ne_parse different same

theorem Reframes.removes (changed : t.Reframes id f' t') (frame : t.frame? id = some f)
    (moves : f.Rearranges f' fun key => if key.Answers name anyCase then none else some key)
    (nodes : t'.nodes = t.nodes) (separate : t.Separate) (separate' : t'.Separate)
    (reports : removed = true ↔ ∃ key : Key, key.Answers name anyCase ∧ (f.ref? key).isSome) :
    t.Removes id name anyCase removed t' where
  removed_iff := by
    rw [isSome_get_own_iff separate, reports]
    simp only [ref?_of_frame? frame]
  own := by
    rw [← Option.not_isSome_iff_eq_none, isSome_get_own_iff separate']
    rintro ⟨key, answers, bound⟩
    rcases Option.isSome_iff_exists.1 bound with ⟨ref, found⟩
    rcases changed.exists_ref? frame moves found with ⟨old, -, moved⟩
    simp only [if_true] at moved
    split at moved
    · cases moved
    · rename_i apart
      cases moved
      exact apart answers
  others := by
    intro other different apart
    refine get_exactly_of_carries fun key answers =>
      changed.carries frame moves nodes ?_ (if_neg (Key.not_answers_of_ne different apart answers))
    intro old moved
    split at moved
    · cases moved
    · exact Option.some.inj moved

/-- On a frame that a render has come to, setting and removing obey the laws of one store. -/
theorem lawful_of_run {title : String} {expander : Expander}
    (run : Run (ofPage title expander) t) (there : (t.frame? id).isSome) (name : String) :
    (∀ node, ∃ t', Yields (t.set id name node) t' ∧ t.Assigns id name node t') ∧
      ∀ anyCase, ∃ removed t', t.unset id name anyCase false = .ok (removed, t') ∧
        t.Removes id name anyCase removed t' := by
  rcases Option.isSome_iff_exists.1 there with ⟨f, frame⟩
  have separate := separate_of_run (coherent_ofPage title expander).separate run
  constructor
  · intro node
    rcases exists_set separate.valid frame name node with ⟨t', ref, ran, b⟩
    exact ⟨t', ran, b.assigns separate⟩
  · intro anyCase
    rcases exists_unset frame name anyCase false with ⟨t', ran, changed, nodes⟩
    have moves := Frame.rearranges_unset_inPlace (separate.textsBound id f frame) name anyCase
    have separate' := separate.rearrange frame moves changed nodes
    exact ⟨_, t', ran, changed.removes frame moves nodes separate separate'
      Frame.unset_eq_true_iff⟩

/-- A position bound as a number and in digits, and a name in two spellings. -/
def doubled : Tree :=
  ((Call.push root "Template"
    { positional := [.text "a"],
      named := [("1", .markup "b"), ("Foo", .text "c"), ("fOO", .markup "d")] }).run?
    (ofPage "Page" shouting)).getD (ofPage "Page" shouting)

/-- A third spelling, removed in any case, takes both others with it, and can be set again. -/
theorem lawful_doubled :
    Run (ofPage "Page" shouting) doubled ∧ (doubled.frame? 1).isSome ∧
      (∃ removed t', doubled.unset 1 "FOO" true false = .ok (removed, t') ∧
        doubled.Removes 1 "FOO" true removed t' ∧ removed = true ∧
        (t'.get 1 "FOO" true false).value = none ∧
        t'.get 1 "1" false false = ⟨some "a", []⟩) ∧
      ∃ t', Yields (doubled.set 1 "FOO" (.markup "e")) t' ∧
        (t'.get 1 "FOO" true true).value = some "e!" ∧
        t'.get 1 "Foo" false false = ⟨some "c", []⟩ := by
  have pushed : (Call.push root "Template"
      { positional := [.text "a"],
        named := [("1", .markup "b"), ("Foo", .text "c"), ("fOO", .markup "d")] }).run?
      (ofPage "Page" shouting) = some doubled := rfl
  have run : Run (ofPage "Page" shouting) doubled := .single (.call _ pushed)
  have there : (doubled.frame? 1).isSome := rfl
  rcases lawful_of_run run there "FOO" with ⟨sets, unsets⟩
  rcases unsets true with ⟨removed, t', ran, removes⟩
  rcases sets (.markup "e") with ⟨t'', ran', assigns⟩
  have found : (doubled.get 1 "FOO" true false).value.isSome := by decide +kernel
  have apart : Text.lower "1" ≠ Text.lower "FOO" := by decide +kernel
  refine ⟨run, there, ⟨removed, t', ran, removes, removes.removed_iff.2 found, removes.own, ?_⟩,
    t'', ran', assigns.own true true, ?_⟩
  · exact (removes.others "1" (by decide) fun _ _ => apart).trans rfl
  · exact (assigns.others "Foo" (by decide)).trans rfl

end TemplateVars.Tree
