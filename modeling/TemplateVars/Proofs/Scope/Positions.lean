import Mathlib.Algebra.BigOperators.Group.List.Basic
import Mathlib.Algebra.GroupWithZero.Nat
import Mathlib.Data.List.Perm.Subperm
import TemplateVars.Proofs.Scope.Gap

/-!
# Removing several positions

Positions can be removed one after another, each gap being closed before the
next removal, or all at once. Both come to the same for every position exactly
if the greater positions are removed first: once a gap below it is closed, a
position stands for what was above it.
-/

namespace TemplateVars.Key

/-- Where a position ends up when gaps are made and closed one after another. -/
def oneByOne : List Nat → Nat → Option Nat
  | [], q => some q
  | n :: ns, q => if q = n then none else oneByOne ns (if n < q then q - 1 else q)

/-- Where a position ends up when all the gaps are made before any is closed. -/
def atOnce (ns : List Nat) (q : Nat) : Option Nat :=
  if q ∈ ns then none else some (q - ns.countP (· < q))

/-- The positions that are removed, as they were before the first removal. -/
def removedFrom : List Nat → List Nat
  | [] => []
  | n :: ns => n :: (removedFrom ns).map fun p => if p < n then p else p + 1

variable {n q : Nat} {ns : List Nat}

theorem oneByOne_eq_none_iff : oneByOne ns q = none ↔ q ∈ removedFrom ns := by
  induction ns generalizing q with
  | nil => simp [oneByOne, removedFrom]
  | cons n ns ih =>
      simp only [oneByOne, removedFrom, List.mem_cons, List.mem_map]
      by_cases own : q = n
      · simp [own]
      · simp only [own, if_false, false_or, ih]
        constructor
        · intro later
          refine ⟨_, later, ?_⟩
          split <;> split <;> omega
        · rintro ⟨p, later, rfl⟩
          have back : (if n < (if p < n then p else p + 1) then (if p < n then p else p + 1) - 1
              else (if p < n then p else p + 1)) = p := by
            split <;> split <;> omega
          rwa [back]

theorem length_removedFrom : (removedFrom ns).length = ns.length := by
  induction ns with
  | nil => rfl
  | cons n ns ih => simp [removedFrom, ih]

theorem sum_le_sum_shift (n : Nat) (ps : List Nat) :
    ps.sum ≤ (ps.map fun p => if p < n then p else p + 1).sum := by
  induction ps with
  | nil => simp
  | cons p ps ih =>
      simp only [List.map_cons, List.sum_cons]
      split <;> omega

theorem lt_of_sum_shift {ps : List Nat}
    (same : (ps.map fun p => if p < n then p else p + 1).sum = ps.sum) : ∀ p ∈ ps, p < n := by
  induction ps with
  | nil => nofun
  | cons p ps ih =>
      have grown := sum_le_sum_shift n ps
      simp only [List.map_cons, List.sum_cons] at same
      split at same
      · rename_i below
        intro p' listed
        rcases List.mem_cons.1 listed with rfl | later
        · exact below
        · exact ih (by omega) p' later
      · omega

theorem sum_le_sum_removedFrom : ns.sum ≤ (removedFrom ns).sum := by
  induction ns with
  | nil => exact Nat.le_refl _
  | cons n ns ih =>
      have grown := sum_le_sum_shift n (removedFrom ns)
      simp only [removedFrom, List.sum_cons]
      omega

/-- Removals that hit what they name come with the greater positions first. -/
theorem descending_of_perm (hits : (removedFrom ns).Perm ns) : ns.Pairwise (· > ·) := by
  induction ns with
  | nil => exact .nil
  | cons n ns ih =>
      have rest := List.perm_cons n |>.1 hits
      -- shifting only ever adds to the sum, so nothing was shifted
      have total := rest.sum_eq
      have grown := sum_le_sum_shift n (removedFrom ns)
      have grown' : ns.sum ≤ (removedFrom ns).sum := sum_le_sum_removedFrom
      have below : ∀ p ∈ removedFrom ns, p < n := lt_of_sum_shift (by omega)
      have unshifted : (removedFrom ns).map (fun p => if p < n then p else p + 1) =
          removedFrom ns := by
        rw [List.map_congr_left fun p listed => if_pos (below p listed), List.map_id']
      rw [unshifted] at rest
      rw [List.pairwise_cons]
      exact ⟨fun p listed => below p (rest.mem_iff.2 listed), ih rest⟩

theorem oneByOne_of_descending (descending : ns.Pairwise (· > ·)) (q : Nat) :
    oneByOne ns q = atOnce ns q := by
  induction ns generalizing q with
  | nil => simp [oneByOne, atOnce]
  | cons n ns ih =>
      rw [List.pairwise_cons] at descending
      rw [oneByOne, ih descending.2, atOnce, atOnce, List.countP_cons]
      rcases Nat.lt_trichotomy q n with below | rfl | above
      · have apart : q ≠ n := by omega
        have under : ¬ n < q := by omega
        simp [apart, under]
      · simp
      · -- what is named later is below the gap, and so below where the position is moved
        have apart : q ≠ n := by omega
        have unnamed : q ∉ ns := fun listed => by have := descending.1 q listed; omega
        have unnamed' : q - 1 ∉ ns := fun listed => by have := descending.1 _ listed; omega
        have all : ns.countP (· < q) = ns.length :=
          List.countP_eq_length.2 fun p listed => by
            have := descending.1 p listed
            simp only [decide_eq_true_eq]
            omega
        have all' : ns.countP (· < q - 1) = ns.length :=
          List.countP_eq_length.2 fun p listed => by
            have := descending.1 p listed
            simp only [decide_eq_true_eq]
            omega
        simp only [List.mem_cons, apart, unnamed, unnamed', above, all, all', if_true, if_false,
          or_self, decide_true, Option.some.injEq]
        omega

/-- Removing one by one comes to the same as removing at once just if the greater go first. -/
theorem oneByOne_eq_atOnce_iff (distinct : ns.Nodup) (small : ∀ n ∈ ns, n ≤ maxPosition) :
    (∀ q ≤ maxPosition, oneByOne ns q = atOnce ns q) ↔ ns.Pairwise (· > ·) := by
  constructor
  · intro agree
    have named : ns ⊆ removedFrom ns := by
      intro n listed
      rw [← oneByOne_eq_none_iff, agree n (small n listed), atOnce, if_pos listed]
    apply descending_of_perm
    exact ((List.Nodup.subperm distinct named).perm_of_length_le
      (Nat.le_of_eq length_removedFrom)).symm
  · intro descending q _
    exact oneByOne_of_descending descending q

/-- The key a binding gets when gaps are made and closed one after another, if it is kept. -/
def closeGaps (gaps : List Nat) (key : Key) : Option Key :=
  gaps.foldlM (fun key gap => Frame.closeGap gap key) key

theorem withIndex_of_index? {key : Key} (index : key.index? = some n) : key.withIndex n = key := by
  cases key with
  | numbered k =>
      cases index
      rfl
  | named name => rw [withIndex, (position?_eq_some.1 index).1]

theorem withIndex_injective (key : Key) : Function.Injective key.withIndex := by
  intro m n same
  cases key with
  | numbered k => exact numbered.inj same
  | named name => exact toString_injective (named.inj same)

theorem withIndex_closeUp (key : Key) (removed n : Nat) :
    (key.closeUp removed).withIndex n = key.withIndex n := by
  cases key <;> simp [withIndex]

theorem closeGaps_of_index? {key : Key} (index : key.index? = some q) (small : q ≤ maxPosition) :
    closeGaps ns key = (oneByOne ns q).map key.withIndex := by
  induction ns generalizing key q with
  | nil => simp [closeGaps, oneByOne, withIndex_of_index? index]
  | cons n ns ih =>
      rw [closeGaps, List.foldlM_cons, oneByOne, Frame.closeGap, index]
      by_cases own : q = n
      · simp [own]
      · have index' : (key.closeUp n).index? = some (if n < q then q - 1 else q) := by
          rw [closeUp_of_index? index]
          split
          · exact index?_withIndex (by omega)
          · exact index
        have later := ih index' (by split <;> omega)
        rw [if_neg (by simpa using own), if_neg own]
        refine later.trans ?_
        congr 1
        funext m
        exact withIndex_closeUp key n m

theorem closeGaps_of_index?_eq_none {key : Key} (nothing : key.index? = none) (ns : List Nat) :
    closeGaps ns key = some key := by
  induction ns with
  | nil => rfl
  | cons n ns ih =>
      rw [closeGaps, List.foldlM_cons, Frame.closeGap, nothing,
        if_neg (Option.some_ne_none n).symm, closeUp_of_index?_eq_none nothing]
      exact ih

end TemplateVars.Key
