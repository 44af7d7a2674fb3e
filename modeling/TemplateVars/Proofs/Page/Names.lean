import TemplateVars.Proofs.Page.Outcome

/-!
# Names under any plan

A plan may be applied to a record that has moved on since it was made. Deletes
and inserts keep the names of the stored sets different all the same, and so
does an update of a set that is still stored. An update of a set that is gone
stores it anew without looking for its name. Names end up different exactly
when no such update comes upon a set of the same name.
-/

namespace TemplateVars

namespace PageRecord

theorem WellFormed.insertSet {r : PageRecord} (wf : r.WellFormed) (rev : RevId)
    (s : VariableSet) : (r.insertSet rev s).WellFormed := by
  unfold PageRecord.insertSet
  split
  · exact wf.rewrite rev _ _ s
  · rename_i absent
    exact wf.storeNew (findByName?_eq_none.1 absent)

end PageRecord

namespace Plan

variable {p : Plan}

theorem wellFormed_afterInserts {r : PageRecord} (wf : r.WellFormed) :
    (p.afterInserts r).WellFormed := by
  have inserted (inserts : List VariableSet) {r : PageRecord} (wf : r.WellFormed) :
      (inserts.foldl (fun r s => r.insertSet p.newRevId s) r).WellFormed := by
    induction inserts generalizing r with
    | nil => exact wf
    | cons s inserts ih => exact ih (wf.insertSet p.newRevId s)
  exact inserted p.inserts (wf.without p.deletes.keys)

/-- Names that differ after a record has grown differed before. -/
theorem Grows.distinctNames {r r' : PageRecord} (grown : p.Grows r r')
    (distinct : r'.DistinctNames) : r.DistinctNames := by
  intro i j s t foundS foundT same
  rcases grown.kept i s foundS with ⟨s', keptS, nameS, -⟩
  rcases grown.kept j t foundT with ⟨t', keptT, nameT, -⟩
  exact distinct i j s' t' keptS keptT (nameS.trans (same.trans nameT.symm))

variable (p)

/--
Whether some update comes upon a record that lacks the set to update but has a
set of the same name, when updates are written one after another.
-/
def ClashesFrom (r : PageRecord) : List (SetId × VariableSet × VariableSet) → Prop
  | [] => False
  | e :: updates =>
      (r.sets.find? e.1 = none ∧ r.HasName e.2.2.name) ∨
        ClashesFrom (r.updateSet p.newRevId e.1 e.2.1 e.2.2) updates

/-- Whether applying a plan to a record has an update clash with a set of the same name. -/
def Clashes (r : PageRecord) : Prop := p.ClashesFrom (p.afterInserts r) p.updates.toList

variable {p}

theorem distinctNames_withUpdates_iff {updates : List (SetId × VariableSet × VariableSet)}
    (planned : updates ⊆ p.updates.toList) {r : PageRecord} (wf : r.WellFormed) :
    (p.withUpdates r updates).DistinctNames ↔ ¬p.ClashesFrom r updates := by
  induction updates generalizing r with
  | nil => exact ⟨fun _ clash => clash, fun _ => wf.distinctNames⟩
  | cons e updates ih =>
      have plannedRest := List.Subset.trans (List.subset_cons_self e updates) planned
      rw [ClashesFrom, not_or, withUpdates, List.foldl_cons, ← withUpdates]
      cases stored : r.sets.find? e.1 with
      | some s =>
          rw [PageRecord.updateSet_of_stored stored, ih plannedRest (wf.rewrite ..)]
          simp
      | none =>
          rw [PageRecord.updateSet_of_gone stored]
          have written : p.Writes r (r.storeNew (e.2.2.toStored p.newRevId)) := by
            rw [← PageRecord.updateSet_of_gone stored p.newRevId e.2.1]
            exact writes_updateSet r (planned List.mem_cons_self)
          have below := (written.grows wf.idsBelow).2
          have stored_iff := PageRecord.distinctNames_storeNew_iff wf.idsBelow wf.distinctNames
            (e.2.2.toStored p.newRevId)
          by_cases free : r.HasName e.2.2.name
          · -- the two sets of one name keep their names whatever is written later
            have clashed : ¬(r.storeNew (e.2.2.toStored p.newRevId)).DistinctNames :=
              fun distinct => stored_iff.1 distinct free
            have grown := (grows_of_writes (writes_withUpdates _ plannedRest) below).1
            exact ⟨fun distinct => absurd (grown.distinctNames distinct) clashed,
              fun calm => absurd ⟨rfl, free⟩ calm.1⟩
          · rw [ih plannedRest ⟨stored_iff.2 free, below⟩]
            simp [free]

/-- Applied to any well-formed record, a plan keeps names different exactly if nothing clashes. -/
theorem distinctNames_apply_iff {r : PageRecord} (wf : r.WellFormed) (now : Timestamp) :
    (p.apply now r).record.DistinctNames ↔ ¬p.Clashes r := by
  rw [PageRecord.DistinctNames, sets_apply]
  exact distinctNames_withUpdates_iff (List.Subset.refl _) (wellFormed_afterInserts wf)

theorem not_clashes_of_isEmpty (nothing : p.isEmpty = true) (r : PageRecord) : ¬p.Clashes r := by
  have noUpdates : p.updates.toList = [] := by
    simp only [isEmpty, total, beq_iff_eq, Nat.add_eq_zero_iff] at nothing
    exact List.eq_nil_of_length_eq_zero nothing.2
  rw [Clashes, noUpdates]
  exact fun clash => clash

/-- What a page holds after a plan is saved keeps names different exactly if nothing clashes. -/
theorem distinctNames_outcome_iff {stored : Option PageRecord}
    (wf : (stored.getD { pageId := p.pageId }).WellFormed) (now : Timestamp) :
    (∀ r, p.outcome now stored = some r → r.DistinctNames) ↔
      ¬p.Clashes (stored.getD { pageId := p.pageId }) := by
  cases busy : p.isEmpty with
  | true =>
      rw [outcome_of_isEmpty busy]
      refine ⟨fun _ => not_clashes_of_isEmpty busy _, fun _ r found => ?_⟩
      rw [found] at wf
      exact wf.distinctNames
  | false =>
      rw [outcome_of_busy busy now rfl, ← distinctNames_apply_iff wf now]
      split
      · rename_i empty
        refine ⟨fun _ i j s t found => ?_, fun _ r found => nomatch found⟩
        rw [SortedMap.isEmpty_iff.1 empty] at found
        cases found
      · simp

end Plan

end TemplateVars
