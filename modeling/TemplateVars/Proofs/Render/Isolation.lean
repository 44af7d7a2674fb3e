import Mathlib.Logic.Relation
import TemplateVars.Proofs.Render.Reachable

/-!
# Frames do not share nodes

However a render has come about, each key of its tree has a node of its own. So
a call is seen in its target alone, what is written through a handle is seen at
the key that has the handle, and a handle that has been dropped stays dropped.
That writes through handles come in between the calls makes no difference.
-/

namespace TemplateVars.Tree

variable {t t' : Tree}

/-- What happens to the tree of a render: a call, or a write by a holder of a handle. -/
inductive Happens : Tree → Tree → Prop
  | call {t t' : Tree} (c : Call) (ran : c.run? t = some t') : Happens t t'
  | poke {t : Tree} (ref : NodeRef) (node : Node) : Happens t (t.poke ref node)

/-- Whatever happens to a tree in the course of time. -/
abbrev Run : Tree → Tree → Prop := Relation.ReflTransGen Happens

theorem Happens.separate (happens : Happens t t') (separate : t.Separate) : t'.Separate := by
  cases happens with
  | call c ran =>
      rcases Call.exists_updates ran with ⟨id, updates⟩
      exact updates.separate separate
  | poke ref node => exact separate_poke separate ref node

/-- Handles are given out in order, and none is given out twice. -/
structure Retires (t t' : Tree) : Prop where
  grown : t.nodes.size ≤ t'.nodes.size
  unbound : ∀ ref < t.nodes.size, t.Unbound ref → t'.Unbound ref

theorem Happens.retires (happens : Happens t t') (separate : t.Separate) : t.Retires t' := by
  cases happens with
  | call c ran =>
      rcases Call.exists_updates ran with ⟨id, updates⟩
      have confined := updates.confined separate
      exact ⟨confined.grown, fun ref known free => confined.unbound known free⟩
  | poke ref node => exact ⟨Nat.le_of_eq Array.size_setIfInBounds.symm, fun _ _ free => free⟩

theorem separate_of_run (separate : t.Separate) (run : Run t t') : t'.Separate := by
  induction run with
  | refl => exact separate
  | tail _ happens ih => exact happens.separate ih

theorem retires_of_run (separate : t.Separate) (run : Run t t') : t.Retires t' := by
  induction run with
  | refl => exact ⟨Nat.le_refl _, fun _ _ free => free⟩
  | tail before happens ih =>
      have next := happens.retires (separate_of_run separate before)
      refine ⟨Nat.le_trans ih.grown next.grown, ?_⟩
      intro ref known free
      exact next.unbound ref (Nat.lt_of_lt_of_le known ih.grown) (ih.unbound ref known free)

theorem Happens.inRange (happens : Happens t t') (separate : t.Separate) (inRange : t.InRange) :
    t'.InRange := by
  cases happens with
  | call c ran =>
      rcases Call.exists_updates ran with ⟨id, updates⟩
      exact updates.inRange separate inRange
  | poke ref node => exact inRange

/-- What a page starts with, and all that happens preserves, holds throughout a render. -/
theorem invariant_of_run {P : Tree → Prop} {title : String} {expander : Expander}
    (run : Run (ofPage title expander) t) (start : P (ofPage title expander))
    (preserved : ∀ t t', Happens t t' → t.Separate → P t → P t') : P t := by
  have separate := (coherent_ofPage title expander).separate
  induction run with
  | refl => exact start
  | tail before happens ih => exact preserved _ _ happens (separate_of_run separate before) ih

theorem inRange_of_run {title : String} {expander : Expander}
    (run : Run (ofPage title expander) t) : t.InRange :=
  invariant_of_run run (inRange_ofPage title expander) fun _ _ happens => happens.inRange

theorem Happens.nested (happens : Happens t t') (separate : t.Separate) (nested : t.Nested) :
    t'.Nested := by
  cases happens with
  | call c ran =>
      rcases Call.exists_updates ran with ⟨id, updates⟩
      exact updates.nested separate nested
  | poke ref node => exact nested

theorem nested_of_run {title : String} {expander : Expander}
    (run : Run (ofPage title expander) t) : t.Nested :=
  invariant_of_run run (nested_ofPage title expander) fun _ _ happens => happens.nested

/-- What a host can rely on when it holds handles and calls verbs. -/
structure Isolated (t : Tree) : Prop where
  /-- No two keys share a handle. -/
  apart : ∀ id key id' key' ref,
    t.ref? id key = some ref → t.ref? id' key' = some ref → id = id' ∧ key = key'
  /-- What is written through the handle of a key is seen at that key and at no other. -/
  poked : ∀ id key ref node, t.ref? id key = some ref → ∀ id' key',
    (t.poke ref node).node? id' key' =
      if id' = id ∧ key' = key then some node else t.node? id' key'
  /-- A call changes no frame but its target, nor what is read in another. -/
  confined : ∀ (c : Call) t', c.run? t = some t' → ∀ id, c.target? t = some id → ∀ other ≠ id,
    t'.frame? other = t.frame? other ∧ ∀ key, t'.node? other key = t.node? other key
  /-- A call without a target changes nothing. -/
  idle : ∀ (c : Call) t', c.run? t = some t' → c.target? t = none → t' = t
  /-- A call that only binds variables leaves every key its handle. -/
  kept : ∀ (c : Call) t', c.OnlyBinds → c.run? t = some t' →
    ∀ id key ref, t.ref? id key = some ref → t'.ref? id key = some ref
  /-- A handle that is bound, and some time later is not, is never bound again. -/
  dropped : ∀ t' t'', Run t t' → Run t' t'' →
    ∀ id key ref, t.ref? id key = some ref → t'.Unbound ref → t''.Unbound ref

theorem Separate.isolated (separate : t.Separate) : t.Isolated where
  apart := separate.apart
  poked _ _ _ node bound := separate.node?_poke bound node
  confined := by
    intro c t' ran id target other apart
    rcases Call.updates_of_run? ran with ⟨none, -⟩ | ⟨id', target', updates⟩
    · rw [target] at none
      cases none
    · rw [target] at target'
      cases target'
      exact (updates.confined separate).others separate apart
  idle := by
    intro c t' ran idle
    rcases Call.updates_of_run? ran with ⟨-, same⟩ | ⟨id, target, -⟩
    · exact same
    · rw [idle] at target
      cases target
  kept := by
    intro c t' binds ran
    rcases Call.rebinds_of_run? binds ran with ⟨-, rfl⟩ | ⟨id, -, rebinds⟩
    · exact fun _ _ _ found => found
    · exact rebinds.kept separate
  dropped := by
    intro t' t'' run rest id key ref bound free
    have known : ref < t'.nodes.size :=
      Nat.lt_of_lt_of_le (separate.valid id key ref bound) (retires_of_run separate run).grown
    exact (retires_of_run (separate_of_run separate run) rest).unbound ref known free

/-- Whatever has happened to the tree of a page, its frames are isolated from one another. -/
theorem isolated_of_run {title : String} {expander : Expander}
    (run : Run (ofPage title expander) t) : t.Isolated :=
  (separate_of_run (coherent_ofPage title expander).separate run).isolated

/-- Two of the template's arguments returned to the page. -/
def returned : Tree := ((Call.returnTo 1 ["x", "2"] false).run? opened).getD opened

/-- A variable that was returned is a copy: overwriting it leaves the argument as it was. -/
theorem isolated_returned :
    Run (ofPage "Page" shouting) returned ∧ returned.Isolated ∧
      returned.ref? root (.named "x") = some 4 ∧ returned.ref? 1 (.named "x") = some 3 ∧
      (returned.poke 4 (.text "e")).node? root (.named "x") = some (.text "e") ∧
      (returned.poke 4 (.text "e")).node? 1 (.named "x") = some (.markup "d") := by
  have pushed : (Call.push root "Template"
      { positional := [.text "a", .markup "b", .markup "c"],
        named := [("x", .markup "d")] }).run? (ofPage "Page" shouting) = some opened := rfl
  have ran : (Call.returnTo 1 ["x", "2"] false).run? opened = some returned := rfl
  have run : Run (ofPage "Page" shouting) returned :=
    .tail (.single (.call _ pushed)) (.call _ ran)
  exact ⟨run, isolated_of_run run, rfl, rfl, rfl, rfl⟩

end TemplateVars.Tree
