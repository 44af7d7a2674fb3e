import TemplateVars.Proofs.Render.Isolation
import TemplateVars.Proofs.Scope.Lookup

/-!
# Removing a position

When a position is removed and the gap closed, exact look-ups of the positions
below read what they read before, and those of the gap and above read what the
next position read. That holds however the positions are bound, as numbers or in
digits, and no binding gets lost on the way.
-/

namespace TemplateVars.Tree

variable {t t' : Tree} {id : FrameId} {key : Key} {f f' : Frame}

/-- A frame before and after a position is removed and the gap is closed. -/
structure Renumbers (t : Tree) (id : FrameId) (gap : Nat) (removed : Bool) (t' : Tree) : Prop where
  removed_iff : removed = true ↔
    (t.ref? id (.numbered gap)).isSome ∨ (t.ref? id (.named (toString gap))).isSome
  below : ∀ m < gap, t'.get id (toString m) false false = t.get id (toString m) false false
  above : ∀ m, gap ≤ m → m < Key.maxPosition →
    t'.get id (toString m) false false = t.get id (toString (m + 1)) false false
  last : t'.locateLocal id (toString Key.maxPosition) false = none
  /-- Names that spell no position read as before. -/
  names : ∀ name, Key.position? name = none →
    t'.get id name false false = t.get id name false false
  /-- Whatever did not stand at the position is kept, with its handle, node and text. -/
  carried : ∀ key : Key, key.index? ≠ some gap → t.Carries id key t' (key.closeUp gap)
  /-- No binding gets in the way of another. -/
  apart : ∀ key other : Key, key.index? ≠ some gap → other.index? ≠ some gap →
    key.closeUp gap = other.closeUp gap → key = other
  /-- Nothing else is bound. -/
  origin : ∀ key, (t'.ref? id key).isSome →
    ∃ old : Key, old.index? ≠ some gap ∧ (t.ref? id old).isSome ∧ old.closeUp gap = key
  /-- Named arguments keep their order. -/
  order : ∀ f f', t.frame? id = some f → t'.frame? id = some f' →
    f'.named.keys = (f.named.keys.filter (· ≠ toString gap)).map (Frame.closeUpName gap)

section Gap

variable {gap : Nat}

/-- A position below a gap that is closed reads as before, one above it moves down. -/
theorem get_position (carried : ∀ key : Key, key.index? ≠ some gap →
      t.Carries id key t' (key.closeUp gap)) {old m : Nat} (small : old ≤ Key.maxPosition)
    (apart : old ≠ gap) (moved : m = if gap < old then old - 1 else old) :
    t'.get id (toString m) false false = t.get id (toString old) false false := by
  have within : m ≤ Key.maxPosition := by
    split at moved <;> omega
  have digits : (Key.named (toString old)).closeUp gap = .named (toString m) := by
    rw [Key.closeUp_of_index? (Key.index?_named_toString small), moved]
    split <;> rfl
  apply get_of_carries
  · rw [Key.parse_eq_numbered.2 ⟨rfl, small⟩, Key.parse_eq_numbered.2 ⟨rfl, within⟩, moved,
      ← Key.closeUp_numbered]
    exact carried (.numbered old) (by simpa [Key.index?] using apart)
  · rw [← digits]
    refine carried (.named (toString old)) ?_
    rw [Key.index?_named_toString small]
    simpa using apart

/-! ### The frame after the gap is closed -/

section Closed

variable (frame : t.frame? id = some f) (changed : t.Reframes id f' t')
  (moves : f.Rearranges f' (Frame.closeGap gap))

include frame changed moves

theorem carries_closeUp (nodes : t'.nodes = t.nodes) (small : gap ≤ Key.maxPosition)
    (outside : key.index? ≠ some gap) : t.Carries id key t' (key.closeUp gap) := by
  refine changed.carries frame moves nodes ?_ (Frame.closeGap_eq_some.2 ⟨outside, rfl⟩)
  intro other moved
  rcases Frame.closeGap_eq_some.1 moved with ⟨outside', same⟩
  exact Key.closeUp_injective small outside' outside same

theorem exists_closeUp_eq (bound : (t'.ref? id key).isSome) :
    ∃ old : Key, old.index? ≠ some gap ∧ (t.ref? id old).isSome ∧ old.closeUp gap = key := by
  rcases Option.isSome_iff_exists.1 bound with ⟨ref, found⟩
  rcases changed.exists_ref? frame moves found with ⟨old, before, moved⟩
  rw [if_pos rfl, Frame.closeGap_eq_some] at moved
  exact ⟨old, moved.1, by simp [before], moved.2⟩

/-- Nothing moves to the last position, as nothing stands above it. -/
theorem unbound_of_last (inRange : t.InRange) (small : gap ≤ Key.maxPosition)
    (last : key.index? = some Key.maxPosition) : ¬ (t'.ref? id key).isSome := by
  intro bound
  rcases exists_closeUp_eq frame changed moves bound with ⟨old, outside, before, rfl⟩
  exact Nat.lt_irrefl _ (Key.index?_closeUp_lt small (inRange id old before) outside last)

end Closed

/-- On a frame that a render has come to, removing a position and closing the gap renumbers. -/
theorem renumbers_of_run {title : String} {expander : Expander}
    (run : Run (ofPage title expander) t) (there : (t.frame? id).isSome)
    (small : gap ≤ Key.maxPosition) (anyCase : Bool) :
    ∃ removed t', t.unset id (toString gap) anyCase true = .ok (removed, t') ∧
      t.Renumbers id gap removed t' := by
  rcases Option.isSome_iff_exists.1 there with ⟨f, frame⟩
  have separate := separate_of_run (coherent_ofPage title expander).separate run
  have moves := Frame.rearranges_unset_position (separate.textsBound id f frame) small anyCase
  rcases exists_unset frame (toString gap) anyCase true with ⟨t', ran, changed, nodes⟩
  have carried (key : Key) (outside : key.index? ≠ some gap) :
      t.Carries id key t' (key.closeUp gap) :=
    carries_closeUp frame changed moves nodes small outside
  have unbound (key : Key) (last : key.index? = some Key.maxPosition) :
      ¬ (t'.ref? id key).isSome :=
    unbound_of_last frame changed moves (inRange_of_run run) small last
  refine ⟨_, t', ran, ⟨?_, ?_, ?_, ?_, ?_, carried, ?_, ?_, ?_⟩⟩
  · rw [Frame.unset_position small, ref?_of_frame? frame, ref?_of_frame? frame]
    simp [SortedMap.contains, OrderedMap.contains, Frame.ref?]
  · intro m below
    exact get_position carried (by omega) (by omega) (if_neg (by omega)).symm
  · intro m above inside
    exact get_position carried inside (by omega) (if_pos (by omega)).symm
  · rw [locateLocal_exact, Key.parse_eq_numbered.2 ⟨rfl, Nat.le_refl _⟩,
      if_neg (unbound (.numbered _) rfl),
      if_neg (unbound (.named _) (Key.index?_named_toString (Nat.le_refl _)))]
  · intro name word
    have indexless : (Key.named name).index? = none := word
    have kept := carried (.named name) (by simp [indexless])
    rw [Key.closeUp_of_index?_eq_none indexless] at kept
    have routed : Key.parse name = .named name := Key.parse_eq_named.2 ⟨rfl, word⟩
    exact get_of_carries (routed ▸ kept) kept
  · intro key other outside outside' same
    exact Key.closeUp_injective small outside outside' same
  · intro key bound
    exact exists_closeUp_eq frame changed moves bound
  · intro g g' before after
    cases frame.symm.trans before
    rw [changed.frame?_eq, if_pos rfl] at after
    cases after
    exact Frame.keys_unset_position small anyCase

end Gap

/-- Arguments bound as numbers and in digits, next to names that only look like positions. -/
def mixed : Tree :=
  ((Call.push root "Template"
    { positional := [.text "a", .markup "b"],
      named := [("4294967295", .text "z"), ("3", .markup "c"), ("03", .text "d"),
        ("4294967296", .text "e")] }).run? (ofPage "Page" shouting)).getD
    (ofPage "Page" shouting)

/-- The second argument is removed; the third and the last, both in digits, move down. -/
theorem renumbers_mixed :
    Run (ofPage "Page" shouting) mixed ∧ (mixed.frame? 1).isSome ∧ 2 ≤ Key.maxPosition ∧
      ∃ removed t', mixed.unset 1 (toString 2) false true = .ok (removed, t') ∧
        mixed.Renumbers 1 2 removed t' ∧ removed = true ∧
        t'.get 1 "2" false false = ⟨some "c!", ["c"]⟩ ∧
        t'.get 1 "4294967294" false false = ⟨some "z", []⟩ ∧
        t'.get 1 "03" false false = ⟨some "d", []⟩ := by
  have pushed : (Call.push root "Template"
      { positional := [.text "a", .markup "b"],
        named := [("4294967295", .text "z"), ("3", .markup "c"), ("03", .text "d"),
          ("4294967296", .text "e")] }).run? (ofPage "Page" shouting) = some mixed := rfl
  have run : Run (ofPage "Page" shouting) mixed := .single (.call _ pushed)
  have there : (mixed.frame? 1).isSome := rfl
  have small : 2 ≤ Key.maxPosition := by decide
  rcases renumbers_of_run run there small false with ⟨removed, t', ran, renumbers⟩
  refine ⟨run, there, small, removed, t', ran, renumbers, ?_, ?_, ?_, ?_⟩
  · exact renumbers.removed_iff.2 (Or.inl rfl)
  · exact (renumbers.above 2 (Nat.le_refl _) (by decide)).trans rfl
  · exact (renumbers.above 4294967294 (by decide) (by decide)).trans rfl
  · exact (renumbers.names "03" rfl).trans rfl

end TemplateVars.Tree
