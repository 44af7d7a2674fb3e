import TemplateVars.Proofs.Render.Isolation
import TemplateVars.Proofs.Scope.Positions

/-!
# Removing several positions in one call

A call that removes several positions takes them one after another and closes
each gap before it goes on. What it is meant to remove is what stood at these
positions when it began. The two agree for every frame exactly if the call names
the greater positions first.
-/

namespace TemplateVars

open VerbCall

/-- Where a binding goes if the gaps are closed after all of them have been made. -/
def Key.closeAtOnce (gaps : List Nat) (key : Key) : Option Key :=
  match key.index? with
  | some q => (atOnce gaps q).map key.withIndex
  | none => some key

namespace Tree

variable {t t' t'' : Tree} {id : FrameId} {f f' : Frame} {ns : List Nat}

/--
Exactly what stood at the positions is removed from a frame; what stood elsewhere
moves down by the number of these positions below it.
-/
def RemovesNamed (t : Tree) (id : FrameId) (positions : List Nat) (t' : Tree) : Prop :=
  ∀ key ref, t'.ref? id key = some ref ↔
    ∃ old, t.ref? id old = some ref ∧ old.closeAtOnce positions = some key

theorem exists_unsetAll (frame : t.frame? id = some f) (bound : f.TextsBound)
    (small : ∀ n ∈ ns, n ≤ Key.maxPosition) (anyCase : Bool) :
    ∃ removed t' f', unsetAll anyCase true id t (ns.map toString) = .ok (removed, t') ∧
      t'.frame? id = some f' ∧ f.Rearranges f' (Key.closeGaps ns) ∧ t'.nodes = t.nodes := by
  induction ns generalizing t f with
  | nil => exact ⟨0, t, f, rfl, frame, .refl f, rfl⟩
  | cons n ns ih =>
      rw [List.forall_mem_cons] at small
      rcases exists_unset frame (toString n) anyCase true with ⟨t₁, ran, changed, nodes⟩
      have moves := Frame.rearranges_unset_position bound small.1 anyCase
      have frame₁ := changed.frame?_self
      rcases ih frame₁ (moves.textsBound bound) small.2 with
        ⟨removed, t', f', rest, frame', moves', nodes'⟩
      have loop : unsetAll anyCase true id t ((n :: ns).map toString) =
          .ok (if (f.unset (toString n) anyCase true).2 then removed + 1 else removed, t') := by
        rw [List.map_cons, unsetAll, ran]
        change (unsetAll anyCase true id t₁ (ns.map toString) >>= _) = _
        rw [rest]
        rfl
      exact ⟨_, t', f', loop, frame', moves.trans moves', nodes'.trans nodes⟩

/-- A call removes what it names exactly where taking one after another does so. -/
theorem removesNamed_iff (separate : t.Separate) (inRange : t.InRange)
    (moves : ∀ key ref, t'.ref? id key = some ref ↔
      ∃ old, t.ref? id old = some ref ∧ Key.closeGaps ns old = some key) :
    t.RemovesNamed id ns t' ↔ ∀ key q, (t.ref? id key).isSome → key.index? = some q →
      Key.oneByOne ns q = Key.atOnce ns q := by
  have closed {key : Key} (there : (t.ref? id key).isSome) {q : Nat} (index : key.index? = some q) :
      Key.closeGaps ns key = (Key.oneByOne ns q).map key.withIndex :=
    Key.closeGaps_of_index? index (Key.index?_le (inRange id key there) index)
  constructor
  · intro removes key q there index
    rcases Option.isSome_iff_exists.1 there with ⟨ref, found⟩
    -- the handle of a key tells where the key has gone, so both ways of moving agree
    have agree (other : Key) :
        Key.closeGaps ns key = some other ↔ key.closeAtOnce ns = some other := by
      have same := (moves other ref).symm.trans (removes other ref)
      constructor
      · intro moved
        rcases same.1 ⟨key, found, moved⟩ with ⟨old, found', moved'⟩
        rwa [(separate.apart id key id old ref found found').2]
      · intro moved
        rcases same.2 ⟨key, found, moved⟩ with ⟨old, found', moved'⟩
        rwa [(separate.apart id key id old ref found found').2]
    have equal := Option.ext fun other => agree other
    rw [closed there index, Key.closeAtOnce, index] at equal
    exact Option.map_injective key.withIndex_injective equal
  · intro agree key ref
    rw [moves]
    refine exists_congr fun old => and_congr_right fun found => ?_
    have there : (t.ref? id old).isSome := by simp [found]
    rw [Key.closeAtOnce]
    cases index : old.index? with
    | none => rw [Key.closeGaps_of_index?_eq_none index]
    | some q => rw [closed there index, agree old q there index]

/-- What a call removes that names several positions and closes the gaps. -/
theorem runUnset_of_run {title : String} {expander : Expander}
    (run : Run (ofPage title expander) t) (there : (t.frame? id).isSome) {call : VerbCall}
    (gate : call.options.gateOpen = true) (shift : call.options.shift = true)
    (names : call.names = ns.map toString) (small : ∀ n ∈ ns, n ≤ Key.maxPosition)
    (distinct : ns.Nodup) :
    ∃ removed t', call.runUnset t id = .ok (removed, t') ∧ t'.nodes = t.nodes ∧
      (∀ key ref, t'.ref? id key = some ref ↔
        ∃ old, t.ref? id old = some ref ∧ Key.closeGaps ns old = some key) ∧
      (t.RemovesNamed id ns t' ↔ ∀ key q, (t.ref? id key).isSome → key.index? = some q →
        Key.oneByOne ns q = Key.atOnce ns q) ∧
      ((∀ q ≤ Key.maxPosition, Key.oneByOne ns q = Key.atOnce ns q) ↔ ns.Pairwise (· > ·)) := by
  rcases Option.isSome_iff_exists.1 there with ⟨f, frame⟩
  have separate := separate_of_run (coherent_ofPage title expander).separate run
  rcases exists_unsetAll frame (separate.textsBound id f frame) small call.options.anyCase with
    ⟨removed, t', f', ran, frame', moves, nodes⟩
  have moved (key : Key) (ref : NodeRef) : t'.ref? id key = some ref ↔
      ∃ old, t.ref? id old = some ref ∧ Key.closeGaps ns old = some key := by
    simp only [ref?_of_frame? frame, ref?_of_frame? frame', moves.ref?_iff]
  refine ⟨removed, t', ?_, nodes, moved, removesNamed_iff separate (inRange_of_run run) moved,
    Key.oneByOne_eq_atOnce_iff distinct small⟩
  rw [runUnset, if_pos gate, shift, names, ran]

/-- Unsets the first two positions, the greater one first. -/
def descendingCall : VerbCall where
  name := "2"
  value := some (.text "1")
  options := { shift := true }

/-- With the greater position first, the third argument is what is left, as the first. -/
theorem runUnset_descending :
    ∃ removed t', descendingCall.runUnset opened 1 = .ok (removed, t') ∧
      opened.RemovesNamed 1 [2, 1] t' ∧ t'.ref? 1 (.numbered 1) = some 2 := by
  have pushed : (Call.push root "Template"
      { positional := [.text "a", .markup "b", .markup "c"],
        named := [("x", .markup "d")] }).run? (ofPage "Page" shouting) = some opened := rfl
  have run : Run (ofPage "Page" shouting) opened := .single (.call _ pushed)
  have there : (opened.frame? 1).isSome := rfl
  have gate : descendingCall.options.gateOpen = true := rfl
  have names : descendingCall.names = [2, 1].map toString := rfl
  rcases runUnset_of_run run there gate rfl names (by decide) (by decide) with
    ⟨removed, t', ran, -, moves, removes, order⟩
  have asNamed : opened.RemovesNamed 1 [2, 1] t' := by
    rw [removes]
    intro key q there index
    have range := inRange_of_run run 1 key there
    exact order.2 (by decide) q (Key.index?_le range index)
  exact ⟨removed, t', ran, asNamed, (moves (.numbered 1) 2).2 ⟨.numbered 3, rfl, rfl⟩⟩

/-- Unsets the first two positions, the smaller one first. -/
def ascendingCall : VerbCall where
  name := "1"
  value := some (.text "2")
  options := { shift := true }

/-- With the smaller position first, the second argument is left and the third is gone. -/
theorem not_removesNamed_ascending :
    ∃ t', ascendingCall.runUnset opened 1 = .ok (2, t') ∧ ¬ opened.RemovesNamed 1 [1, 2] t' ∧
      t'.node? 1 (.numbered 1) = some (.markup "b") := by
  refine ⟨_, rfl, ?_, rfl⟩
  intro removes
  have third := (removes (.numbered 1) 2).2 ⟨.numbered 3, rfl, rfl⟩
  cases third

end Tree

end TemplateVars
