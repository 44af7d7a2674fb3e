import TemplateVars.Proofs.Page.Convergence
import TemplateVars.Proofs.Page.Rows

/-!
# Renders that overlap

Two renders overlap when both are planned against the same record and one plan
is applied after the other. The plan that comes last then merges its render
into what the first has left. The result is that of one render alone only if
the last render overrules the first one, repeats it, or changes nothing.
-/

namespace TemplateVars

namespace SetCollection

variable (stored first last : SetCollection)

/-- What a name stands for once the last of two renders is merged into what the first left. -/
def merged? (name : String) : Option (SortedMap String Variable) :=
  match last.sets.find? name, stored.sets.find? name, first.sets.find? name with
  | none, none, u? => u?.map (·.vars)
  | none, some _, _ => none
  | some t, some s, some u => some ((RowDiff.between s t).applyTo u.vars)
  | some t, none, _ => some t.vars
  | some t, some _, none => some t.vars

/-- Nothing remains of the first of two renders that is not in the last one. -/
structure Overrules : Prop where
  /-- The first render brings no set that the last one lacks. -/
  sets : ∀ name, stored.sets.find? name = none → last.sets.find? name = none →
    first.sets.find? name = none
  /-- In sets common to all, the first render leaves alone what the last one leaves alone. -/
  rows : ∀ name s t u row, stored.sets.find? name = some s → last.sets.find? name = some t →
    first.sets.find? name = some u → s.vars.find? row = t.vars.find? row →
    u.vars.find? row = t.vars.find? row

/-- The last of two renders adds nothing to the first one. -/
structure Repeats : Prop where
  /-- The first render has every set of the last one, and brings what that brings. -/
  brought : ∀ name t, last.sets.find? name = some t →
    ∃ u, first.sets.find? name = some u ∧ (stored.sets.find? name = none → u.vars = t.vars)
  /-- The last render drops no stored set that the first one keeps. -/
  kept : ∀ name s u, stored.sets.find? name = some s → first.sets.find? name = some u →
    last.sets.find? name ≠ none
  /-- In sets common to all, the first render changes what the last one changes, in the same way. -/
  rows : ∀ name s t u row, stored.sets.find? name = some s → last.sets.find? name = some t →
    first.sets.find? name = some u → s.vars.find? row ≠ t.vars.find? row →
    u.vars.find? row = t.vars.find? row

/-- What is stored once two renders have overlapped is what one of them alone would have stored. -/
def LeavesOne : Prop :=
  stored.contents = last.contents ∨ Overrules stored first last ∨ Repeats stored first last

variable {stored first last}

theorem applyTo_eq_last_iff {s t : VariableSet} {vars : SortedMap String Variable} :
    (RowDiff.between s t).applyTo vars = t.vars ↔
      ∀ row, s.vars.find? row = t.vars.find? row → vars.find? row = t.vars.find? row := by
  constructor
  · intro same row alike
    rw [← same, RowDiff.find?_applyTo_between, if_pos alike]
  · intro same
    apply SortedMap.ext_find?
    intro row
    rw [RowDiff.find?_applyTo_between]
    split
    · rename_i alike
      exact same row alike
    · rfl

theorem applyTo_eq_first_iff {s t : VariableSet} {vars : SortedMap String Variable} :
    (RowDiff.between s t).applyTo vars = vars ↔
      ∀ row, s.vars.find? row ≠ t.vars.find? row → vars.find? row = t.vars.find? row := by
  constructor
  · intro same row differ
    have written := RowDiff.find?_applyTo_between s t vars row
    rwa [same, if_neg differ] at written
  · intro same
    apply SortedMap.ext_find?
    intro row
    rw [RowDiff.find?_applyTo_between]
    split
    · rfl
    · rename_i differ
      exact (same row differ).symm

/-- The merge leaves the last render alone exactly if that overrules the first one. -/
theorem merged?_eq_last_iff :
    (∀ name, merged? stored first last name = (last.sets.find? name).map (·.vars)) ↔
      Overrules stored first last := by
  constructor
  · intro same
    constructor
    · intro name unstored unrendered
      simpa [merged?, unstored, unrendered] using same name
    · intro name s t u row foundS foundT foundU
      have written := same name
      simp only [merged?, foundS, foundT, foundU, Option.map_some, Option.some.injEq] at written
      exact applyTo_eq_last_iff.1 written row
  · intro overrules name
    cases foundT : last.sets.find? name with
    | none =>
        cases foundS : stored.sets.find? name with
        | none => simp [merged?, foundT, foundS, overrules.sets name foundS foundT]
        | some s => simp [merged?, foundT, foundS]
    | some t =>
        cases foundS : stored.sets.find? name with
        | none => simp [merged?, foundT, foundS]
        | some s =>
            cases foundU : first.sets.find? name with
            | none => simp [merged?, foundT, foundS, foundU]
            | some u =>
                have rows := fun row => overrules.rows name s t u row foundS foundT foundU
                simp [merged?, foundT, foundS, foundU, applyTo_eq_last_iff.2 rows]

/-- The merge leaves the first render alone exactly if the last one repeats it. -/
theorem merged?_eq_first_iff :
    (∀ name, merged? stored first last name = (first.sets.find? name).map (·.vars)) ↔
      Repeats stored first last := by
  constructor
  · intro same
    constructor
    · intro name t foundT
      have written := same name
      cases foundU : first.sets.find? name with
      | none =>
          cases foundS : stored.sets.find? name <;>
            simp [merged?, foundT, foundS, foundU] at written
      | some u =>
          refine ⟨u, rfl, ?_⟩
          intro foundS
          simp only [merged?, foundT, foundS, foundU, Option.map_some, Option.some.injEq] at written
          exact written.symm
    · intro name s u foundS foundU foundT
      have written := same name
      simp [merged?, foundT, foundS, foundU] at written
    · intro name s t u row foundS foundT foundU
      have written := same name
      simp only [merged?, foundS, foundT, foundU, Option.map_some, Option.some.injEq] at written
      exact applyTo_eq_first_iff.1 written row
  · intro repeats name
    cases foundT : last.sets.find? name with
    | none =>
        cases foundS : stored.sets.find? name with
        | none => simp [merged?, foundT, foundS]
        | some s =>
            have foundU : first.sets.find? name = none := by
              rw [Option.eq_none_iff_forall_ne_some]
              intro u foundU
              exact repeats.kept name s u foundS foundU foundT
            simp [merged?, foundT, foundS, foundU]
    | some t =>
        rcases repeats.brought name t foundT with ⟨u, foundU, brought⟩
        cases foundS : stored.sets.find? name with
        | none => simp [merged?, foundT, foundS, foundU, brought foundS]
        | some s =>
            have rows := fun row => repeats.rows name s t u row foundS foundT foundU
            simp [merged?, foundT, foundS, foundU, applyTo_eq_first_iff.2 rows]

/-- A render that changes nothing is overruled by any other. -/
theorem overrules_of_unchanged (same : stored.contents = first.contents) :
    Overrules stored first last := by
  have said (name : String) : (stored.sets.find? name).map (fun s => (s.name, s.vars)) =
      (first.sets.find? name).map fun s => (s.name, s.vars) := by
    rw [← find?_contents, ← find?_contents, same]
  constructor
  · intro name unstored _
    simpa [unstored] using said name
  · intro name s t u row foundS _ foundU alike
    have vars : s.vars = u.vars := by
      have both := said name
      rw [foundS, foundU] at both
      simp only [Option.map_some, Option.some.injEq, Prod.mk.injEq] at both
      exact both.2
    rw [← vars, alike]

end SetCollection

namespace Plan

variable {r : PageRecord} {first last : SetCollection}

/-- Names stay different when a second render overlaps the first one. -/
theorem wellFormed_overlap (wf : r.WellFormed) (keyed : first.Keyed) (keyed' : last.Keyed)
    (now now' : Timestamp) :
    let r₁ := ((between (some r.toCollection) (some first)).apply now r).record
    ((between (some r.toCollection) (some last)).apply now' r₁).record.WellFormed := by
  intro r₁
  have descends : r.Descends r₁ := wf.idsBelow.descends.apply wf.idsBelow _ now
  have wf₁ : r₁.WellFormed := (apply_between_toCollection wf keyed now).1
  apply wellFormed_apply_between wf descends keyed' wf₁
  rintro id s found gone ⟨i, u, found₁, named⟩
  cases id_eq_of_name_eq wf keyed found found₁ named
  rw [gone] at found₁
  cases found₁

section Replaced

variable {r₁ r₂ : PageRecord} (keyed : first.Keyed) (keyed' : last.Keyed)
  (replaced : Replaces r first r₁) (merges : MergesRender r last r₁ r₂)
  (descends : r₁.Descends r₂) (distinct : r₂.DistinctNames)

include merges

include descends in
/-- What the last render lacks was there before, under the same identifier. -/
theorem stored_of_unrendered {id : SetId} {t : StoredSet} (found : r₂.sets.find? id = some t)
    (unrendered : last.sets.find? t.name = none) :
    ∃ u, r₁.sets.find? id = some u ∧ u.name = t.name := by
  cases before : r₁.sets.find? id with
  | none =>
      rcases merges.fresh id t before found with ⟨-, v, rendered, -⟩
      rw [unrendered] at rendered
      cases rendered
  | some u => exact ⟨u, rfl, descends.sameNames id u t before found⟩

include replaced distinct keyed'

include descends in
/-- A stored name is gone, stored anew, or stands for the rows of both renders. -/
theorem vars?_overlap_of_stored {id : SetId} {s : StoredSet}
    (found : r.sets.find? id = some s)
    (sameId : ∀ j u, r₁.sets.find? j = some u → u.name = s.name → j = id)
    (loaded : r.toCollection.sets.find? s.name = some (PageRecord.asVariableSet id s)) :
    r₂.vars? s.name = SetCollection.merged? r.toCollection first last s.name := by
  cases rendered : last.sets.find? s.name with
  | none =>
      have nowhere : ¬r₂.HasName s.name := by
        rintro ⟨j, t, found₂, named⟩
        rcases stored_of_unrendered merges descends found₂ (named ▸ rendered) with
          ⟨u, found₁, called⟩
        cases sameId j u found₁ (called.trans named)
        rw [merges.gone id s found rendered] at found₂
        cases found₂
      simp [SetCollection.merged?, rendered, loaded, PageRecord.vars?_eq_none.2 nowhere]
  | some t =>
      cases kept : first.sets.find? s.name with
      | none =>
          have gone := replaced.gone id s found kept
          rcases merges.restored id s t found rendered gone with ⟨fresh, -, found₂⟩
          have named : t.name = s.name := keyed' s.name t rendered
          have saved := PageRecord.vars?_of_stored distinct found₂
          simpa [SetCollection.merged?, VariableSet.toStored, rendered, loaded, kept, named]
            using saved
      | some u =>
          have found₁ := replaced.kept id s u found kept
          have vars : (s.rewritten first.revId (PageRecord.asVariableSet id s) u).vars = u.vars :=
            StoredSet.vars_rewritten_of_eq rfl
          rcases merges.updated id s t _ found rendered found₁ with ⟨s', found₂, named, -, rows⟩
          have written : s'.vars =
              (RowDiff.between (PageRecord.asVariableSet id s) t).applyTo u.vars := by
            apply SortedMap.ext_find?
            intro row
            rw [rows, RowDiff.find?_applyTo_between, vars]
            rfl
          have saved := PageRecord.vars?_of_stored distinct found₂
          simpa [SetCollection.merged?, rendered, loaded, kept, named, written] using saved

include keyed descends in
/-- A new name stands for the set of the last render, if that has one, or else of the first. -/
theorem vars?_overlap_of_absent (below : r.IdsBelow) {name : String} (absent : ¬r.HasName name)
    (loaded : r.toCollection.sets.find? name = none) :
    r₂.vars? name = SetCollection.merged? r.toCollection first last name := by
  cases rendered : last.sets.find? name with
  | none =>
      cases brought : first.sets.find? name with
      | none =>
          have nowhere : ¬r₂.HasName name := by
            rintro ⟨j, t, found₂, named⟩
            rcases stored_of_unrendered merges descends found₂ (named ▸ rendered) with
              ⟨u, found₁, called⟩
            have said := (PageRecord.contents_toCollection_eq_iff
              replaced.wellFormed.distinctNames keyed).1 (replaced.contents_eq keyed) name
            rw [brought] at said
            exact PageRecord.vars?_eq_none.1 said ⟨j, u, found₁, called.trans named⟩
          simp [SetCollection.merged?, rendered, loaded, brought,
            PageRecord.vars?_eq_none.2 nowhere]
      | some u =>
          rcases replaced.stored name u brought absent with ⟨id, unused, found₁⟩
          have unknown : r.sets.find? id = none := below.find?_eq_none unused
          have named : u.name = name := keyed name u brought
          have found₂ := merges.kept id (u.toStored first.revId) unknown found₁
            ((congrArg last.sets.find? named).trans rendered)
          have saved := PageRecord.vars?_of_stored distinct found₂
          simpa [SetCollection.merged?, VariableSet.toStored, rendered, loaded, brought,
            named] using saved
  | some t =>
      cases taken : r₁.findByName? name with
      | none =>
          rcases merges.inserted name t rendered absent (PageRecord.findByName?_eq_none.1 taken)
            with ⟨fresh, -, found₂⟩
          have saved := PageRecord.vars?_of_stored distinct found₂
          simpa [SetCollection.merged?, VariableSet.toStored, rendered, loaded,
            keyed' name t rendered] using saved
      | some e =>
          rcases merges.replaced name t e.1 e.2 rendered absent taken with
            ⟨s', found₂, named, vars⟩
          have saved := PageRecord.vars?_of_stored distinct found₂
          simpa [SetCollection.merged?, rendered, loaded, named, vars] using saved

end Replaced

/-- After two renders that overlap each name stands for what the merge says. -/
theorem vars?_overlap (wf : r.WellFormed) (keyed : first.Keyed) (keyed' : last.Keyed)
    (differ : r.toCollection.contents ≠ first.contents)
    (differ' : r.toCollection.contents ≠ last.contents) (now now' : Timestamp) (name : String) :
    let r₁ := ((between (some r.toCollection) (some first)).apply now r).record
    ((between (some r.toCollection) (some last)).apply now' r₁).record.vars? name =
      SetCollection.merged? r.toCollection first last name := by
  intro r₁
  have replaced : Replaces r first r₁ := replaces_apply wf keyed differ now
  have descends : r.Descends r₁ := wf.idsBelow.descends.apply wf.idsBelow _ now
  have merges := mergesRender_apply wf descends keyed' differ' now'
  have descends₁ := replaced.wellFormed.idsBelow.descends.apply replaced.wellFormed.idsBelow
    (between (some r.toCollection) (some last)) now'
  have distinct := (wellFormed_overlap wf keyed keyed' now now').distinctNames
  rcases r.toCollection_cases name with ⟨id, s, found, rfl, loaded, -⟩ | ⟨absent, loaded, -⟩
  · have sameId : ∀ j u, r₁.sets.find? j = some u → u.name = s.name → j = id :=
      fun j u found₁ named => id_eq_of_name_eq wf keyed found found₁ named
    exact vars?_overlap_of_stored keyed' replaced merges descends₁ distinct found sameId loaded
  · exact vars?_overlap_of_absent keyed keyed' replaced merges descends₁ distinct wf.idsBelow
      absent loaded

/--
Two renders that overlap leave what one of them alone would leave exactly if
the last one changes nothing, overrules the first one or repeats it.
-/
theorem contents_overlap_iff (wf : r.WellFormed) (keyed : first.Keyed) (keyed' : last.Keyed)
    (now now' : Timestamp) :
    let r₁ := ((between (some r.toCollection) (some first)).apply now r).record
    let r₂ := ((between (some r.toCollection) (some last)).apply now' r₁).record
    r₂.toCollection.contents = first.contents ∨ r₂.toCollection.contents = last.contents ↔
      SetCollection.LeavesOne r.toCollection first last := by
  intro r₁ r₂
  have ⟨wf₁, contents₁⟩ := apply_between_toCollection wf keyed now
  have distinct : r₂.DistinctNames := (wellFormed_overlap wf keyed keyed' now now').distinctNames
  by_cases unchanged' : r.toCollection.contents = last.contents
  · have same : r₂ = r₁ := apply_of_isEmpty ((isEmpty_between_iff r last).2 unchanged') now' r₁
    rw [same]
    exact iff_of_true (Or.inl contents₁) (Or.inl unchanged')
  by_cases unchanged : r.toCollection.contents = first.contents
  · have same : r₁ = r := apply_of_isEmpty ((isEmpty_between_iff r first).2 unchanged) now r
    have alone : r₂ = ((between (some r.toCollection) (some last)).apply now' r).record :=
      congrArg (fun q => ((between (some r.toCollection) (some last)).apply now' q).record) same
    have contents₂ : r₂.toCollection.contents = last.contents := by
      rw [alone]
      exact (apply_between_toCollection wf keyed' now').2
    exact iff_of_true (Or.inr contents₂)
      (Or.inr (Or.inl (SetCollection.overrules_of_unchanged unchanged)))
  have merged : ∀ name, r₂.vars? name = SetCollection.merged? r.toCollection first last name :=
    vars?_overlap wf keyed keyed' unchanged unchanged' now now'
  have leaves (c : SetCollection) (keptByName : c.Keyed) :
      r₂.toCollection.contents = c.contents ↔
        ∀ name, SetCollection.merged? r.toCollection first last name =
          (c.sets.find? name).map (·.vars) := by
    rw [PageRecord.contents_toCollection_eq_iff distinct keptByName]
    simp only [merged]
  rw [leaves first keyed, leaves last keyed', SetCollection.merged?_eq_first_iff,
    SetCollection.merged?_eq_last_iff, SetCollection.LeavesOne, or_iff_right unchanged', or_comm]

end Plan

end TemplateVars
