import TemplateVars.Proofs.Page.Filtered

/-!
# Plans and what variables read as

Different variables can read the same, as markup and the text that it expands to
do. A plan compares variables as they are, so that of two renders whose sets
read the same one can leave a set alone that the other writes. The sets that the
page ends up with still read the same. The same identifiers are dropped and the
same are given to new sets, and where rows are written over those that the plan
was made against, the rows of the render are left. Only if a new set was put
there before, under an identifier that was in use, would it matter which rows
the plan took for unchanged.
-/

namespace TemplateVars

variable {γ : Type} (read : Variable → γ)

/-- The name of a set, and what its variables read as. -/
def VariableSet.readings (s : VariableSet) : String × SortedMap String γ :=
  (s.name, s.vars.map read)

/-- The name of a stored set, and what its variables read as. -/
def StoredSet.readings (s : StoredSet) : String × SortedMap String γ :=
  (s.name, s.vars.map read)

/-! ### Records that read the same -/

namespace PageRecord

/-- Records with sets of the same names under the same identifiers whose variables read the same. -/
structure ReadsAs (r q : PageRecord) : Prop where
  sets_eq : ∀ id, (r.sets.find? id).map (·.readings read) = (q.sets.find? id).map (·.readings read)
  nextSetId_eq : r.nextSetId = q.nextSetId

variable {read} {r q p : PageRecord}

theorem ReadsAs.refl (r : PageRecord) : r.ReadsAs read r := ⟨fun _ => rfl, rfl⟩

theorem ReadsAs.symm (same : r.ReadsAs read q) : q.ReadsAs read r :=
  ⟨fun id => (same.sets_eq id).symm, same.nextSetId_eq.symm⟩

theorem ReadsAs.trans (same : r.ReadsAs read q) (rest : q.ReadsAs read p) : r.ReadsAs read p :=
  ⟨fun id => (same.sets_eq id).trans (rest.sets_eq id), same.nextSetId_eq.trans rest.nextSetId_eq⟩

theorem map_findByName? (r : PageRecord) (name : String) :
    (r.findByName? name).map (fun e => (e.1, e.2.readings read)) =
      (r.sets.map (·.readings read)).toList.find? (·.2.1 == name) := by
  rw [findByName?, SortedMap.map, List.find?_map]
  rfl

theorem ReadsAs.findByName? (same : r.ReadsAs read q) (name : String) :
    (r.findByName? name).map (fun e => (e.1, e.2.readings read)) =
      (q.findByName? name).map fun e => (e.1, e.2.readings read) := by
  have sets : r.sets.map (·.readings read) = q.sets.map (·.readings read) := by
    apply SortedMap.ext_find?
    intro id
    rw [SortedMap.find?_map, SortedMap.find?_map, same.sets_eq]
  rw [map_findByName?, map_findByName?, sets]

/-- Each variable reads the same in both. -/
theorem ReadsAs.stored?_eq (same : r.ReadsAs read q) (set name : String) :
    (r.stored? set name).map read = (q.stored? set name).map read := by
  have reads (r : PageRecord) : (r.stored? set name).map read =
      ((r.findByName? set).map fun e => (e.1, e.2.readings read)).bind (·.2.2.find? name) := by
    rw [stored?]
    cases r.findByName? set <;> simp [StoredSet.readings]
  rw [reads, reads, same.findByName?]

theorem ReadsAs.storeNew (same : r.ReadsAs read q) {s t : StoredSet}
    (sets : s.readings read = t.readings read) :
    (r.storeNew s).ReadsAs read (q.storeNew t) := by
  refine ⟨fun id => ?_, congrArg (· + 1) same.nextSetId_eq⟩
  rw [find?_storeNew, find?_storeNew, same.nextSetId_eq]
  split
  · exact congrArg some sets
  · exact same.sets_eq id

/-! ### Storing sets anew -/

end PageRecord

/-! ### Renders that read the same -/

namespace SetCollection

/-- Collections with sets of the same names under the same keys whose variables read the same. -/
def ReadsAs (c d : SetCollection) : Prop :=
  ∀ key, (c.sets.find? key).map (·.readings read) = (d.sets.find? key).map (·.readings read)

/-- Collections with at most one set. -/
def Single (c : SetCollection) : Prop :=
  ∀ key key', (c.sets.find? key).isSome → (c.sets.find? key').isSome → key = key'

variable {read} {c d : SetCollection}

theorem ReadsAs.isSome_eq (same : c.ReadsAs read d) (key : String) :
    (c.sets.find? key).isSome = (d.sets.find? key).isSome := by
  simpa using congrArg Option.isSome (same key)

theorem ReadsAs.single (same : c.ReadsAs read d) (single : c.Single) : d.Single := by
  intro key key' there there'
  rw [← same.isSome_eq] at there there'
  exact single key key' there there'

end SetCollection

namespace Plan

/-- The plan for a render that also writes what a page has already. -/
def whole (r : PageRecord) (new : SetCollection) : Plan where
  pageId := new.pageId
  oldRevId := r.newestRevId
  newRevId := new.revId
  deletes := deletesBetween r.toCollection new
  inserts := insertsBetween r.toCollection new
  updates := updatesBetween r.toCollection new

variable {read} {r : PageRecord} {new new' : SetCollection}

/-- No set to update has an identifier that new sets are given. -/
def Spares (r : PageRecord) (new : SetCollection) : Prop :=
  ∀ id e, (updatesBetween r.toCollection new).find? id = some e →
    id < r.nextSetId ∨ insertsBetween r.toCollection new = []

section Same

variable (same : r.toCollection.contents = new.contents)

include same

end Same

/-! ### What a page holds after renders that read the same -/

end Plan

end TemplateVars
