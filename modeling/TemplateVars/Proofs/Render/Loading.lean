import Mathlib.Data.Finset.Card
import TemplateVars.Proofs.Render.Reachable
import TemplateVars.Proofs.Scope.Lookup

/-!
# What loading binds

Loading binds variables one after another under names that a frame lacks. As
different names have different keys, none of them gets in the way of another,
and all other bindings of the tree stay what they are.
-/

namespace TemplateVars

open TreeUpdate

namespace Tree

variable {t t' : Tree} {id : FrameId} {f : Frame}

theorem locateLocal_eq_none (frame : t.frame? id = some f) {name : String} :
    t.locateLocal id name false = none ↔
      t.ref? id (Key.parse name) = none ∧ t.ref? id (.named name) = none := by
  rw [locateLocal, frame, Option.bind_some, Frame.locate, ref?_of_frame? frame,
    ref?_of_frame? frame]
  cases f.ref? (Key.parse name) <;> cases f.ref? (.named name) <;> simp

theorem Binds.locateLocal_eq_none {name other : String} {node : Node} {text : String}
    {ref : NodeRef} (b : t.Binds id (Key.parse name) node text f ref t') (different : other ≠ name)
    (free : t.locateLocal id other false = none) : t'.locateLocal id other false = none := by
  have frame := b.frame?_self
  rw [Tree.locateLocal_eq_none b.frame] at free
  rw [Tree.locateLocal_eq_none frame, b.ref?_eq, b.ref?_eq, if_neg, if_neg]
  · exact free
  · rintro ⟨-, same⟩
    exact different (Key.parse_eq_named.1 same.symm).1.symm
  · rintro ⟨-, same⟩
    exact different (Key.parse_injective same)

/-- Whatever is bound under a key reads the same in two trees. -/
structure SameAt (t t' : Tree) (id : FrameId) (key : Key) : Prop where
  ref?_eq : t'.ref? id key = t.ref? id key
  node?_eq : t'.node? id key = t.node? id key
  cached?_eq : t'.cached? id key = t.cached? id key

theorem SameAt.trans {t'' : Tree} {key : Key} (first : t.SameAt t' id key)
    (second : t'.SameAt t'' id key) : t.SameAt t'' id key :=
  ⟨second.ref?_eq.trans first.ref?_eq, second.node?_eq.trans first.node?_eq,
    second.cached?_eq.trans first.cached?_eq⟩

theorem Binds.sameAt {key key' : Key} {node : Node} {text : String} {ref : NodeRef}
    {other : FrameId} (b : t.Binds id key node text f ref t') (separate : t.Separate)
    (apart : ¬(other = id ∧ key' = key)) : t.SameAt t' other key' where
  ref?_eq := by rw [b.ref?_eq, if_neg apart]
  node?_eq := by rw [b.node?_eq separate, if_neg apart]
  cached?_eq := by rw [b.cached?_eq, if_neg apart]

/-- Variables of different names that a frame lacks are all bound, and nothing else is. -/
theorem exists_bindMissing {vars : List (String × Variable)} (coherent : t.Coherent)
    (frame : t.frame? id = some f) (nodup : (vars.map (·.1)).Nodup)
    (free : ∀ e ∈ vars, t.locateLocal id e.1 false = none) :
    ∃ t', Yields (Engine.bindMissing false id t vars) (vars.length, t') ∧
      (∀ e ∈ vars, t'.node? id (Key.parse e.1) = some e.2.toNode) ∧
      ∀ other key, (∀ e ∈ vars, ¬(other = id ∧ key = Key.parse e.1)) → t.SameAt t' other key := by
  induction vars generalizing t f with
  | nil => exact ⟨t, yields_pure.2 rfl, nofun, fun _ _ _ => ⟨rfl, rfl, rfl⟩⟩
  | cons e vars ih =>
      rcases e with ⟨name, v⟩
      rw [List.map_cons, List.nodup_cons] at nodup
      have distinct (e : String × Variable) (listed : e ∈ vars) : e.1 ≠ name := by
        rintro rfl
        exact nodup.1 (List.mem_map_of_mem (f := (·.1)) listed)
      rcases exists_set coherent.valid frame name v.toNode with ⟨t₁, ref, set, b⟩
      have frame₁ := b.frame?_self
      rcases ih ((rebinds_set set).coherent coherent) frame₁ nodup.2 fun e listed =>
        b.locateLocal_eq_none (distinct e listed) (free e (List.mem_cons_of_mem _ listed)) with
        ⟨t', rest, bound, kept⟩
      refine ⟨t', ?_, ?_, ?_⟩
      · rw [Engine.bindMissing, free _ List.mem_cons_self]
        simp only [Option.isSome_none, Bool.false_eq_true, if_false, yields_bind, yields_pure]
        exact ⟨t₁, set, (vars.length, t'), rest, rfl⟩
      · intro e listed
        rcases List.mem_cons.1 listed with rfl | later
        · have same := kept id (Key.parse name) fun e listed same =>
            distinct e listed (Key.parse_injective same.2).symm
          rw [same.node?_eq, b.node?_eq coherent.separate, if_pos ⟨rfl, rfl⟩]
        · exact bound e later
      · intro other key apart
        exact (b.sameAt coherent.separate (apart _ List.mem_cons_self)).trans
          (kept other key fun e listed => apart e (List.mem_cons_of_mem _ listed))

/--
What becomes of a tree when variables are loaded into a frame that lacks them:
they are bound under their names and read as their own text or as what the
tree's expander makes of their markup, all other keys are left alone, and the
number is that of the new bindings.
-/
structure Receives (t : Tree) (id : FrameId) (vars : String → Option Variable) (n : Nat)
    (t' : Tree) : Prop where
  bound : ∀ name v, vars name = some v →
    t.locateLocal id name false = none ∧ t'.locateLocal id name false = some (Key.parse name) ∧
      t'.node? id (Key.parse name) = some v.toNode ∧
      (t'.get id name false false).value = some (t.expander.textOf v.toNode)
  kept : ∀ other key, (∀ name v, vars name = some v → ¬(other = id ∧ key = Key.parse name)) →
    t.SameAt t' other key
  count : ∃ names : Finset String, (∀ name, name ∈ names ↔ (vars name).isSome) ∧ n = names.card

theorem receives_nothing (t : Tree) (id : FrameId) {vars : String → Option Variable}
    (nothing : ∀ name, vars name = none) : t.Receives id vars 0 t where
  bound := by
    intro name v found
    rw [nothing] at found
    cases found
  kept _ _ _ := ⟨rfl, rfl, rfl⟩
  count := ⟨∅, by simp [nothing], rfl⟩

theorem exists_receives {vars : SortedMap String Variable} (coherent : t.Coherent)
    (frame : t.frame? id = some f)
    (free : ∀ name v, vars.find? name = some v → t.locateLocal id name false = none) :
    ∃ n t', Yields (Engine.bindMissing false id t vars.toList) (n, t') ∧
      t.Receives id vars.find? n t' := by
  rcases exists_bindMissing coherent frame vars.keys_nodup
    (SortedMap.forall_find?_iff.1 free) with ⟨t', ran, bound, kept⟩
  have rebinds := rebinds_bindMissing ran
  refine ⟨vars.toList.length, t', ran, ?_, ?_, ?_⟩
  · intro name v found
    have node := bound (name, v) (SortedMap.find?_eq_some.1 found)
    have located : t'.locateLocal id name false = some (Key.parse name) := by
      apply locateLocal_of_ref?
      rcases Option.bind_eq_some_iff.1 node with ⟨ref, own, -⟩
      rw [own]
      rfl
    refine ⟨free name v found, located, node, ?_⟩
    rw [get, locate_own, located]
    simp only [Option.map_some]
    rw [value_text (rebinds.coherent coherent), node, rebinds.expander_eq]
    rfl
  · intro other key apart
    exact kept other key fun e listed => apart e.1 e.2 (SortedMap.find?_eq_some.2 listed)
  · refine ⟨vars.keys.toFinset, ?_, ?_⟩
    · intro name
      rw [List.mem_toFinset, ← SortedMap.contains_iff]
      rfl
    · rw [List.toFinset_card_of_nodup vars.keys_nodup, SortedMap.keys, List.length_map]

end Tree

end TemplateVars
