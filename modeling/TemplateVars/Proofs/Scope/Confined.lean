import TemplateVars.Proofs.Scope.Tree

/-!
# Changes that stay within a frame

A change that is confined to a frame leaves the other frames alone, overwrites
no node but those the frame binds, and gives the frame no handle but new ones
and those it had. If the frames of the tree are separate, no other frame sees
the change, and a handle that is bound nowhere any more remains so.
-/

namespace TemplateVars.Tree

variable {t t' t'' : Tree} {id other : FrameId} {key : Key} {ref : NodeRef} {node : Node}

/-- A handle that no key has. -/
def Unbound (t : Tree) (ref : NodeRef) : Prop := ∀ id key, t.ref? id key ≠ some ref

/-- A change of one frame that takes no handle from another. -/
structure Confined (id : FrameId) (t t' : Tree) : Prop where
  frame?_eq : ∀ other, other ≠ id → t'.frame? other = t.frame? other
  grown : t.nodes.size ≤ t'.nodes.size
  nodes_eq : ∀ ref < t.nodes.size, (∀ key, t.ref? id key ≠ some ref) →
    t'.nodes[ref]? = t.nodes[ref]?
  /-- A handle of the frame is new, or it belonged to the frame before. -/
  origin : ∀ key ref, t'.ref? id key = some ref →
    t.nodes.size ≤ ref ∨ ∃ old, t.ref? id old = some ref

namespace Confined

theorem refl (id : FrameId) (t : Tree) : t.Confined id t :=
  ⟨fun _ _ => rfl, Nat.le_refl _, fun _ _ _ => rfl, fun key _ found => Or.inr ⟨key, found⟩⟩

theorem trans (first : t.Confined id t') (second : t'.Confined id t'') : t.Confined id t'' where
  frame?_eq other apart := (second.frame?_eq other apart).trans (first.frame?_eq other apart)
  grown := Nat.le_trans first.grown second.grown
  nodes_eq := by
    intro ref inside free
    have free' (key : Key) : t'.ref? id key ≠ some ref := by
      intro found
      rcases first.origin key ref found with new | ⟨old, held⟩
      · exact Nat.not_lt.2 new inside
      · exact free old held
    have later := second.nodes_eq ref (Nat.lt_of_lt_of_le inside first.grown) free'
    exact later.trans (first.nodes_eq ref inside free)
  origin := by
    intro key ref found
    rcases second.origin key ref found with new | ⟨old, held⟩
    · exact Or.inl (Nat.le_trans first.grown new)
    · exact first.origin old ref held

theorem ref?_eq (c : t.Confined id t') (apart : other ≠ id) (key : Key) :
    t'.ref? other key = t.ref? other key := by
  rw [ref?, c.frame?_eq other apart]
  rfl

/-- If each key has its own node, what the other frames read is not touched. -/
theorem node?_eq (c : t.Confined id t') (separate : t.Separate) (apart : other ≠ id) (key : Key) :
    t'.node? other key = t.node? other key := by
  rw [node?, c.ref?_eq apart, node?]
  cases found : t.ref? other key with
  | none => rfl
  | some ref =>
      refine c.nodes_eq ref (separate.valid other key ref found) ?_
      intro key' held
      exact apart (separate.apart other key id key' ref found held).1

/-- Nothing about another frame has changed. -/
theorem others (c : t.Confined id t') (separate : t.Separate) (apart : other ≠ id) :
    t'.frame? other = t.frame? other ∧ ∀ key, t'.node? other key = t.node? other key :=
  ⟨c.frame?_eq other apart, c.node?_eq separate apart⟩

/-- A handle that has been given out and is bound nowhere is not given out again. -/
theorem unbound (c : t.Confined id t') (known : ref < t.nodes.size) (free : t.Unbound ref) :
    t'.Unbound ref := by
  intro other key found
  by_cases here : other = id
  · subst here
    rcases c.origin key ref found with new | ⟨old, held⟩
    · exact Nat.not_lt.2 new known
    · exact free other old held
  · rw [c.ref?_eq here] at found
    exact free other key found

end Confined

theorem Separate.confined_bind {text : String} (separate : t.Separate)
    (ok : t.bind id key node text = .ok t') : t.Confined id t' := by
  rcases binds_of_bind separate.valid ok with ⟨f, ref, b⟩
  -- the handle of the binding was that of the key, unless it is new
  have given : t.ref? id key = some ref ∨ ref = t.nodes.size := by
    rw [ref?_of_frame? b.frame, b.ref_eq]
    cases f.ref? key with
    | some held => exact Or.inl rfl
    | none => exact Or.inr rfl
  refine ⟨?_, ?_, ?_, ?_⟩
  · intro other apart
    rw [b.frame?_eq, if_neg apart]
  · refine Nat.le_of_not_lt fun less => ?_
    exact Nat.lt_irrefl _ ((b.lt_size_iff _).2 (Or.inr less))
  · intro r inside free
    rw [b.nodes_eq, if_neg]
    rintro rfl
    rcases given with held | new
    · exact free key held
    · exact Nat.lt_irrefl _ (new ▸ inside)
  · intro key' r found
    rw [b.ref?_eq] at found
    split at found
    · cases found
      rcases given with held | new
      · exact Or.inr ⟨key, held⟩
      · exact Or.inl (Nat.le_of_eq new.symm)
    · exact Or.inr ⟨key', found⟩

theorem Reframes.confined {f f' : Frame} {move : Key → Option Key}
    (changed : t.Reframes id f' t') (frame : t.frame? id = some f) (moves : f.Rearranges f' move)
    (nodes : t'.nodes = t.nodes) : t.Confined id t' where
  frame?_eq := by
    intro other apart
    rw [changed.frame?_eq, if_neg apart]
  grown := Nat.le_of_eq (congrArg Array.size nodes).symm
  nodes_eq _ _ _ := by rw [nodes]
  origin := by
    intro key ref found
    rcases changed.exists_ref? frame moves found with ⟨old, before, -⟩
    exact Or.inr ⟨old, before⟩

theorem Opens.confined {parent : FrameId} {f : Frame} (opened : t.Opens parent id f t') :
    t.Confined id t' where
  frame?_eq := by
    intro other apart
    rw [opened.frame?_eq, if_neg apart]
  grown := opened.grown
  nodes_eq ref inside _ := opened.kept ref inside
  origin := by
    intro key ref found
    rw [opened.toReframes.ref?_eq, if_pos rfl] at found
    exact Or.inl (opened.fresh key ref found).1

/-! ### Overwriting nodes -/

theorem separate_poke (separate : t.Separate) (ref : NodeRef) (node : Node) :
    (t.poke ref node).Separate where
  valid := by
    intro id key held found
    rw [poke, Array.size_setIfInBounds]
    exact separate.valid id key held found
  apart := separate.apart
  textsBound := separate.textsBound

/-- Overwriting a node through the handle of a key is seen at that key and at no other. -/
theorem Separate.node?_poke (separate : t.Separate) (bound : t.ref? id key = some ref)
    (node : Node) (id' : FrameId) (key' : Key) :
    (t.poke ref node).node? id' key' =
      if id' = id ∧ key' = key then some node else t.node? id' key' := by
  have inside := separate.valid id key ref bound
  change (t.ref? id' key').bind (fun r => (t.nodes.setIfInBounds ref node)[r]?) = _
  split
  · rename_i here
    rw [here.1, here.2, bound]
    simp [inside]
  · rename_i away
    rw [node?]
    cases found : t.ref? id' key' with
    | none => rfl
    | some r =>
        have different : ref ≠ r := by
          rintro rfl
          exact away (separate.apart id' key' id key ref found bound)
        simp [different]

end TemplateVars.Tree
