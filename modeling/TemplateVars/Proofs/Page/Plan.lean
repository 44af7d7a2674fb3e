import Mathlib.Data.List.Nodup
import TemplateVars.Page.Plan
import TemplateVars.Proofs.Page.Record
import TemplateVars.Proofs.Saved.Collection

/-!
# Plans against a loaded record

A plan is made against the collection that was loaded from a record. Loading
gives every name an identifier, so each stored name is either deleted or
updated and each other name of the render is inserted. The sides of a plan that
are missing count as empty collections.
-/

namespace TemplateVars

namespace SetCollection

/-- What a render hands over for a page, if anything. -/
def forPage (page : PageId) (rendered : Option SetCollection) : Option SetCollection :=
  rendered.map fun c => { c with pageId := page }

theorem pageId_of_forPage {page : PageId} {rendered : Option SetCollection} {c : SetCollection}
    (handed : forPage page rendered = some c) : c.pageId = page := by
  rcases Option.map_eq_some_iff.1 handed with ⟨_, -, rfl⟩
  rfl

end SetCollection

namespace Plan

variable (r : PageRecord) (new : SetCollection)

theorem counterpart?_cases (name : String) :
    (∃ id s, r.sets.find? id = some s ∧ s.name = name ∧
        counterpart? r.toCollection name = some (id, PageRecord.asVariableSet id s)) ∨
      ¬r.HasName name ∧ counterpart? r.toCollection name = none := by
  rcases r.toCollection_cases name with ⟨id, s, found, named, set, ident⟩ | ⟨absent, set, ident⟩
  · exact Or.inl ⟨id, s, found, named, by simp [counterpart?, set, ident]⟩
  · exact Or.inr ⟨absent, by simp [counterpart?, set]⟩

/-- Identifiers tell the names of a loaded collection apart. -/
theorem counterpart?_name {name : String} {id : SetId} {old : VariableSet}
    (found : counterpart? r.toCollection name = some (id, old)) :
    ∃ s, r.sets.find? id = some s ∧ s.name = name ∧ old = PageRecord.asVariableSet id s := by
  rcases counterpart?_cases r name with ⟨i, s, stored, named, present⟩ | ⟨-, absent⟩
  · rw [present] at found
    cases found
    exact ⟨s, stored, named, rfl⟩
  · rw [absent] at found
    cases found

theorem mem_deletesBetween {id : SetId} :
    id ∈ (deletesBetween r.toCollection new).keys ↔
      ∃ name, new.sets.find? name = none ∧ r.toCollection.idOf? name = some id := by
  simp only [deletesBetween, SortedMap.mem_keys_ofList, List.mem_map, List.mem_filterMap]
  constructor
  · rintro ⟨e, ⟨name, -, chosen⟩, rfl⟩
    split at chosen
    · cases chosen
    · rename_i gone
      rcases Option.map_eq_some_iff.1 chosen with ⟨id, ident, rfl⟩
      exact ⟨name, by simpa [SortedMap.contains] using gone, ident⟩
  · rintro ⟨name, gone, ident⟩
    refine ⟨(id, ()), ⟨name, ?_, by simp [SortedMap.contains, gone, ident]⟩, rfl⟩
    rw [SortedMap.mem_keys_iff]
    rcases r.toCollection_cases name with ⟨i, s, -, -, set, -⟩ | ⟨-, -, none⟩
    · exact ⟨_, set⟩
    · rw [none] at ident
      cases ident

theorem mem_insertsBetween {s : VariableSet} :
    s ∈ insertsBetween r.toCollection new ↔
      ∃ name, new.sets.find? name = some s ∧ ¬r.HasName name := by
  simp only [insertsBetween, List.mem_map, List.mem_filter]
  constructor
  · rintro ⟨⟨name, s⟩, ⟨listed, fresh⟩, rfl⟩
    refine ⟨name, SortedMap.find?_eq_some.2 listed, ?_⟩
    rcases counterpart?_cases r name with ⟨i, s, -, -, present⟩ | ⟨absent, -⟩
    · simp [present] at fresh
    · exact absent
  · rintro ⟨name, found, absent⟩
    refine ⟨(name, s), ⟨SortedMap.find?_eq_some.1 found, ?_⟩, rfl⟩
    rcases counterpart?_cases r name with ⟨i, s, stored, named, -⟩ | ⟨-, missing⟩
    · exact absurd ⟨i, s, stored, named⟩ absent
    · simp [missing]

theorem find?_updatesBetween {id : SetId} {old s : VariableSet} :
    (updatesBetween r.toCollection new).find? id = some (old, s) ↔
      ∃ name, new.sets.find? name = some s ∧
        counterpart? r.toCollection name = some (id, old) := by
  rw [updatesBetween]
  refine (SortedMap.kind.find?_ofList_of_nodup ?_).trans ?_
  · rw [List.map_filterMap]
    refine List.Pairwise.filterMap _ ?_ (List.pairwise_map.1 new.sets.keys_nodup)
    rintro ⟨name, s⟩ ⟨other, t⟩ differ id listed id' listed' rfl
    simp only [Option.map_map, Option.map_eq_some_iff, Function.comp_apply] at listed listed'
    rcases listed with ⟨⟨i, old⟩, present, same⟩
    rcases listed' with ⟨⟨i', old'⟩, present', same'⟩
    rcases counterpart?_name r present with ⟨stored, found, named, -⟩
    rcases counterpart?_name r present' with ⟨stored', found', named', -⟩
    simp only at same same'
    subst same same'
    rw [found] at found'
    cases found'
    exact differ (named.symm.trans named')
  · simp only [List.mem_filterMap, Option.map_eq_some_iff, Prod.mk.injEq]
    constructor
    · rintro ⟨⟨name, t⟩, listed, ⟨i, stored⟩, present, rfl, rfl, rfl⟩
      exact ⟨name, SortedMap.find?_eq_some.2 listed, present⟩
    · rintro ⟨name, found, present⟩
      exact ⟨(name, s), SortedMap.find?_eq_some.1 found, (id, old), present, rfl, rfl, rfl⟩

theorem find?_updatesBetween_of_distinct (distinct : r.DistinctNames) {id : SetId}
    {old t : VariableSet} :
    (updatesBetween r.toCollection new).find? id = some (old, t) ↔
      ∃ s, r.sets.find? id = some s ∧ new.sets.find? s.name = some t ∧
        old = PageRecord.asVariableSet id s := by
  rw [find?_updatesBetween]
  constructor
  · rintro ⟨name, rendered, present⟩
    rcases counterpart?_name r present with ⟨s, found, named, rfl⟩
    exact ⟨s, found, named ▸ rendered, rfl⟩
  · rintro ⟨s, found, rendered, rfl⟩
    refine ⟨s.name, rendered, ?_⟩
    rcases counterpart?_cases r s.name with ⟨i, u, stored, named, present⟩ | ⟨absent, -⟩
    · cases distinct i id u s stored found named
      rw [found] at stored
      cases stored
      exact present
    · exact absurd ⟨id, s, found, rfl⟩ absent

theorem mem_deletesBetween_of_distinct (distinct : r.DistinctNames) {id : SetId} :
    id ∈ (deletesBetween r.toCollection new).keys ↔
      ∃ s, r.sets.find? id = some s ∧ new.sets.find? s.name = none := by
  rw [mem_deletesBetween]
  constructor
  · rintro ⟨name, lacking, ident⟩
    rcases r.toCollection_cases name with ⟨i, s, stored, named, -, known⟩ | ⟨-, -, unknown⟩
    · rw [ident] at known
      cases known
      exact ⟨s, stored, named ▸ lacking⟩
    · rw [unknown] at ident
      cases ident
  · rintro ⟨s, found, lacking⟩
    exact ⟨s.name, lacking, PageRecord.idOf?_of_distinct distinct found⟩

/-- The sets to insert have different names if the sets of the render are kept under theirs. -/
theorem insertsBetween_names_nodup (keyed : new.Keyed) :
    ((insertsBetween r.toCollection new).map (·.name)).Nodup := by
  have names : (insertsBetween r.toCollection new).map (·.name) =
      (new.sets.toList.filter fun e => (counterpart? r.toCollection e.1).isNone).map (·.1) := by
    rw [insertsBetween, List.map_map]
    apply List.map_congr_left
    rintro ⟨name, s⟩ listed
    exact keyed name s (SortedMap.find?_eq_some.2 (List.mem_of_mem_filter listed))
  rw [names]
  exact new.sets.keys_nodup.sublist (List.filter_sublist.map _)

/-! ### Plans with a missing side -/

theorem between_none_right (old : SetCollection) :
    between (some old) none =
      between (some old) (some { pageId := old.pageId, revId := old.revId }) := rfl

theorem between_none_left :
    between none (some new) =
      between (some ({ pageId := new.pageId } : PageRecord).toCollection) (some new) := rfl

theorem pageId_between_some (old? : Option SetCollection) (c : SetCollection) :
    (between old? (some c)).pageId = c.pageId := by
  rw [between]
  split <;> rfl

theorem newRevId_between_some (old? : Option SetCollection) (c : SetCollection) :
    (between old? (some c)).newRevId = c.revId := by
  rw [between]
  split <;> rfl

theorem pageId_between_none (old : SetCollection) :
    (between (some old) none).pageId = old.pageId := by
  rw [between]
  split <;> rfl

/-- A plan between collections of a page is one for that page unless there is nothing to do. -/
theorem pageId_between {page : PageId} {old? new? : Option SetCollection}
    (old : ∀ c, old? = some c → c.pageId = page) (new : ∀ c, new? = some c → c.pageId = page) :
    (between old? new?).isEmpty = true ∨ (between old? new?).pageId = page := by
  cases new? with
  | some c => exact Or.inr ((pageId_between_some old? c).trans (new c rfl))
  | none =>
      cases old? with
      | some c => exact Or.inr ((pageId_between_none c).trans (old c rfl))
      | none => exact Or.inl rfl

/-! ### Plans with both sides -/

theorem between_of_same (same : r.toCollection.contents = new.contents) :
    between (some r.toCollection) (some new) =
      { pageId := new.pageId, oldRevId := r.newestRevId, newRevId := new.revId } := by
  have sameSets : r.toCollection.sameSets new = true := SetCollection.sameSets_iff.2 same
  simp [between, sameSets]

theorem between_of_differ (differ : r.toCollection.contents ≠ new.contents) :
    between (some r.toCollection) (some new) =
      { pageId := new.pageId, oldRevId := r.newestRevId, newRevId := new.revId
        deletes := deletesBetween r.toCollection new
        inserts := insertsBetween r.toCollection new
        updates := updatesBetween r.toCollection new } := by
  have sameSets : r.toCollection.sameSets new = false := by
    rw [Bool.eq_false_iff, ne_eq, SetCollection.sameSets_iff]
    exact differ
  simp [between, sameSets]

theorem mem_deletes_between {id : SetId}
    (planned : id ∈ (between (some r.toCollection) (some new)).deletes.keys) :
    ∃ name, new.sets.find? name = none ∧ r.toCollection.idOf? name = some id := by
  by_cases same : r.toCollection.contents = new.contents
  · rw [between_of_same r new same] at planned
    cases planned
  · rw [between_of_differ r new same] at planned
    exact (mem_deletesBetween r new).1 planned

theorem mem_inserts_between {t : VariableSet}
    (planned : t ∈ (between (some r.toCollection) (some new)).inserts) :
    ∃ name, new.sets.find? name = some t ∧ ¬r.HasName name := by
  by_cases same : r.toCollection.contents = new.contents
  · rw [between_of_same r new same] at planned
    cases planned
  · rw [between_of_differ r new same] at planned
    exact (mem_insertsBetween r new).1 planned

theorem find?_updates_between {id : SetId} {e : VariableSet × VariableSet}
    (planned : (between (some r.toCollection) (some new)).updates.find? id = some e) :
    ∃ s, r.sets.find? id = some s ∧ new.sets.find? s.name = some e.2 := by
  by_cases same : r.toCollection.contents = new.contents
  · rw [between_of_same r new same] at planned
    cases planned
  · rw [between_of_differ r new same] at planned
    rcases (find?_updatesBetween r new).1 planned with ⟨name, found, known⟩
    rcases counterpart?_name r known with ⟨s, stored, named, -⟩
    exact ⟨s, stored, named ▸ found⟩

variable {r new}

/-- A set of the render that is not stored is always inserted. -/
theorem mem_inserts_between_of_new {name : String} {t : VariableSet}
    (rendered : new.sets.find? name = some t) (absent : ¬r.HasName name) :
    t ∈ (between (some r.toCollection) (some new)).inserts := by
  have differ : r.toCollection.contents ≠ new.contents := by
    intro same
    have said := SetCollection.find?_contents new name
    rcases r.toCollection_cases name with ⟨id, s, found, named, -, -⟩ | ⟨-, loaded, -⟩
    · exact absent ⟨id, s, found, named⟩
    · simp [← same, loaded, rendered] at said
  rw [between_of_differ r new differ]
  exact (mem_insertsBetween r new).2 ⟨name, rendered, absent⟩

/-- A stored set is always updated if the render changes one of its rows. -/
theorem find?_updates_between_of_changed (distinct : r.DistinctNames) {id : SetId} {s : StoredSet}
    {t : VariableSet} {row : String} (found : r.sets.find? id = some s)
    (rendered : new.sets.find? s.name = some t)
    (changed : s.vars.find? row ≠ t.vars.find? row) :
    (between (some r.toCollection) (some new)).updates.find? id =
      some (PageRecord.asVariableSet id s, t) := by
  have differ : r.toCollection.contents ≠ new.contents := by
    intro same
    have said := SetCollection.find?_contents new s.name
    rcases r.toCollection_cases s.name with ⟨i, u, found', named, loaded, -⟩ | ⟨absent, -, -⟩
    · cases distinct i id u s found' found named
      rw [found] at found'
      cases found'
      rw [← same, SetCollection.find?_contents, loaded, rendered] at said
      simp only [Option.map_some, Option.some.injEq, Prod.mk.injEq] at said
      exact changed (congrArg (·.find? row) said.2)
    · exact absent ⟨id, s, found, rfl⟩
  rw [between_of_differ r new differ]
  exact (find?_updatesBetween_of_distinct r new distinct).2 ⟨s, found, rendered, rfl⟩

theorem deletes_between_of_complete
    (complete : ∀ id s, r.sets.find? id = some s → new.sets.contains s.name = true) :
    (between (some r.toCollection) (some new)).deletes.keys = [] := by
  rw [List.eq_nil_iff_forall_not_mem]
  intro id planned
  rcases mem_deletes_between r new planned with ⟨name, lacking, ident⟩
  rcases r.toCollection_cases name with ⟨i, s, found, named, -, -⟩ | ⟨-, -, unknown⟩
  · have rendered := complete i s found
    simp [SortedMap.contains, named, lacking] at rendered
  · simp [ident] at unknown

variable (r new)

/-- There is nothing to do exactly when the stored sets are those of the render. -/
theorem isEmpty_between_iff :
    (between (some r.toCollection) (some new)).isEmpty = true ↔
      r.toCollection.contents = new.contents := by
  constructor
  · intro nothing
    by_contra differ
    rw [between_of_differ r new differ] at nothing
    simp only [isEmpty, total, beq_iff_eq, Nat.add_eq_zero_iff, List.length_eq_zero_iff,
      SortedMap.size_eq_zero_iff] at nothing
    rcases nothing with ⟨⟨noDeletes, noInserts⟩, noUpdates⟩
    have rendered : ∀ name, new.sets.find? name = none := by
      intro name
      rw [Option.eq_none_iff_forall_ne_some]
      intro s found
      rcases counterpart?_cases r name with ⟨id, old, -, -, present⟩ | ⟨absent, -⟩
      · have planned := (find?_updatesBetween r new).2 ⟨name, found, present⟩
        rw [noUpdates] at planned
        cases planned
      · have planned := (mem_insertsBetween r new).2 ⟨name, found, absent⟩
        simp [noInserts] at planned
    apply differ
    apply SortedMap.ext_find?
    intro name
    rw [SetCollection.find?_contents, SetCollection.find?_contents, rendered]
    rcases r.toCollection_cases name with ⟨id, s, -, -, -, ident⟩ | ⟨-, absent, -⟩
    · have planned := (mem_deletesBetween r new).2 ⟨name, rendered name, ident⟩
      rw [SortedMap.mem_keys_iff] at planned
      rcases planned with ⟨value, found⟩
      rw [noDeletes] at found
      cases found
    · rw [absent]
  · intro same
    rw [between_of_same r new same]
    rfl

end Plan

end TemplateVars
