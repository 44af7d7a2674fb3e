import TemplateVars.Command.Run
import TemplateVars.Proofs.Page.Outcome

/-!
# Rendered sets as a page would store them

The file of a diff may name sets and variables at any length. Storage cuts names
to its width, so that several sets of the file can come together in one, and
several variables as well; the last one counts. The names of sets that are left
empty count too.
-/

namespace TemplateVars

namespace Command

open SetCollection

/-- Whether rendered sets have one whose name is cut to a name of storage. -/
def Renders (sets : RenderedSets) (set : String) : Prop :=
  ∃ name vars, sets.find? name = some vars ∧ truncateName name = set

/-- What rendered sets put into a set of storage, in order, under names of storage. -/
def renderedInto (sets : RenderedSets) (set : String) : List (String × Variable) :=
  (sets.toList.filter fun e => truncateName e.1 = set).flatMap fun e =>
    e.2.toList.map fun v => (truncateName v.1, v.2)

/-- The variable that rendered sets have under names of storage: of several the last counts. -/
def rendered? (sets : RenderedSets) (set name : String) : Option Variable :=
  SortedMap.lookup name (renderedInto sets set).reverse

variable {page : PageId} {rev : RevId} {sets : RenderedSets}

/-- What is collected has a set for each one of the file, and no other. -/
theorem find?_collect (page : PageId) (rev : RevId) (sets : RenderedSets) (set : String) :
    (¬ Renders sets set ∧ (collect page rev sets).sets.find? set = none) ∨
      (Renders sets set ∧ ∃ s, (collect page rev sets).sets.find? set = some s ∧ s.name = set ∧
        ∀ name, s.vars.find? name = rendered? sets set name) := by
  rw [collect, find?_insertSets]
  simp only [List.filter_map, List.map_eq_nil_iff, List.filter_eq_nil_iff]
  by_cases renders : Renders sets set
  · rcases id renders with ⟨name, vars, found, cut⟩
    rw [if_neg fun nothing => nothing _ (SortedMap.find?_eq_some.1 found) (by simpa using cut)]
    refine Or.inr ⟨renders, _, rfl, ?_, ?_⟩
    · simp [VariableSet.ofName, ← cut]
    · intro name
      refine (VariableSet.get?_insertAll ..).trans ?_
      simp [VariableSet.ofName, VariableSet.get?, rendered?, renderedInto, List.map_flatMap,
        List.flatMap_map, Function.comp_def]
  · refine Or.inl ⟨renders, if_pos fun e listed cut => renders ⟨e.1, e.2, ?_, by simpa using cut⟩⟩
    exact SortedMap.find?_eq_some.2 listed

theorem of_find?_collect {set : String} {s : VariableSet}
    (found : (collect page rev sets).sets.find? set = some s) :
    Renders sets set ∧ s.name = set ∧ ∀ name, s.vars.find? name = rendered? sets set name := by
  rcases find?_collect page rev sets set with ⟨-, nothing⟩ | ⟨renders, s', found', own⟩
  · rw [nothing] at found
    cases found
  · rw [found'] at found
    cases found
    exact ⟨renders, own⟩

theorem exists_find?_collect {set : String} (renders : Renders sets set) :
    ∃ s, (collect page rev sets).sets.find? set = some s := by
  rcases find?_collect page rev sets set with ⟨no, -⟩ | ⟨-, s, found, -⟩
  · exact absurd renders no
  · exact ⟨s, found⟩

theorem keyed_collect : (collect page rev sets).Keyed :=
  fun _ _ found => (of_find?_collect found).2.1

theorem pageId_insertSets (c : SetCollection) (sets : List (String × List (String × Variable))) :
    (c.insertSets sets).pageId = c.pageId := by
  rw [insertSets]
  induction sets generalizing c with
  | nil => rfl
  | cons e sets ih => exact ih (c.modifySet e.1 (·.insertAll e.2))

theorem insertSets_withRevId (c : SetCollection) (rev : RevId)
    (sets : List (String × List (String × Variable))) :
    ({ c with revId := rev } : SetCollection).insertSets sets =
      { c.insertSets sets with revId := rev } := by
  rw [insertSets, insertSets]
  induction sets generalizing c with
  | nil => rfl
  | cons e sets ih => exact ih (c.modifySet e.1 (·.insertAll e.2))

/-- The revision of what is collected is only written on it. -/
theorem collect_withRevId (page : PageId) (rev rev' : RevId) (sets : RenderedSets) :
    collect page rev' sets = { collect page rev sets with revId := rev' } :=
  insertSets_withRevId { pageId := page, revId := rev } rev' _

@[simp]
theorem pageId_collect : (collect page rev sets).pageId = page := pageId_insertSets ..

@[simp]
theorem revId_collect : (collect page rev sets).revId = rev := by
  rw [collect_withRevId page rev rev]

/-- What is collected says the same at every revision. -/
theorem contents_collect (rev' : RevId) :
    (collect page rev' sets).contents = (collect page rev sets).contents := by
  rw [collect_withRevId page rev rev']
  rfl

theorem hasSets_collect_iff :
    (collect page rev sets).HasSets ↔ ∃ name vars, sets.find? name = some vars := by
  constructor
  · rintro ⟨set, s, found⟩
    rcases (of_find?_collect found).1 with ⟨name, vars, rendered, -⟩
    exact ⟨name, vars, rendered⟩
  · rintro ⟨name, vars, rendered⟩
    exact ⟨truncateName name, exists_find?_collect ⟨name, vars, rendered, rfl⟩⟩

/-- A record that holds what rendered sets say, under names of storage, and nothing else. -/
structure Holds (sets : RenderedSets) (r : PageRecord) : Prop where
  wellFormed : r.WellFormed
  names : ∀ set, r.HasName set ↔ Renders sets set
  rows : ∀ id s, r.sets.find? id = some s →
    ∀ name, s.vars.find? name = rendered? sets s.name name

/-- A record that says what was collected holds what was rendered. -/
theorem holds_of_contents {r : PageRecord} (wf : r.WellFormed)
    (same : r.toCollection.contents = (collect page rev sets).contents) : Holds sets r := by
  have alike (set : String) := congrArg (·.find? set) same
  simp only [find?_contents] at alike
  refine ⟨wf, fun set => ⟨?_, fun renders => ?_⟩, fun id s found name => ?_⟩
  · rintro ⟨id, s, found, rfl⟩
    specialize alike s.name
    rcases r.toCollection_cases s.name with ⟨_, _, _, _, loaded, -⟩ | ⟨absent, -, -⟩
    · rw [loaded] at alike
      rcases Option.map_eq_some_iff.1 alike.symm with ⟨s', found', -⟩
      exact (of_find?_collect found').1
    · exact absurd ⟨id, s, found, rfl⟩ absent
  · specialize alike set
    have ⟨s', found'⟩ : ∃ s', (collect page rev sets).sets.find? set = some s' :=
      exists_find?_collect renders
    rcases r.toCollection_cases set with ⟨id, s, found, named, -⟩ | ⟨-, absent, -⟩
    · exact ⟨id, s, found, named⟩
    · rw [absent, found'] at alike
      cases alike
  · specialize alike s.name
    rcases r.toCollection_cases s.name with ⟨i, t, stored, named, loaded, -⟩ | ⟨absent, -, -⟩
    · cases wf.distinctNames i id t s stored found named
      cases stored.symm.trans found
      rw [loaded] at alike
      rcases Option.map_eq_some_iff.1 alike.symm with ⟨s', found', own⟩
      rw [← (of_find?_collect found').2.2, (Prod.mk.inj own).2]
      rfl
    · exact absurd ⟨id, s, found, rfl⟩ absent

end Command

end TemplateVars
