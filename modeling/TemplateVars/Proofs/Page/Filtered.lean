import TemplateVars.Proofs.Page.Outcome

/-!
# Variables of a page by name

What a page has under the names of a set and a variable. A restricted reading
of a set gives the variables of the names that are asked for, and after a plan
that was made against the page itself these are the variables of the render.
-/

namespace TemplateVars

namespace PageRecord

/-- The variable under the stored names of a set and of its own. -/
def stored? (r : PageRecord) (set name : String) : Option Variable :=
  (r.findByName? set).bind (·.2.vars.find? name)

/-- Where names differ, the loaded collection has the very set that a look-up by name finds. -/
theorem find?_toCollection {r : PageRecord} (distinct : r.DistinctNames) (name : String) :
    r.toCollection.sets.find? name =
      (r.findByName? name).map fun e => asVariableSet e.1 e.2 := by
  rcases r.toCollection_cases name with ⟨id, s, found, rfl, loaded, -⟩ | ⟨absent, loaded, -⟩
  · rw [loaded, findByName?_of_distinct distinct found]
    rfl
  · rw [loaded, findByName?_eq_none.2 absent]
    rfl

/-- Where names differ, a record and the collection loaded from it have the same variables. -/
theorem stored?_toCollection {r : PageRecord} (distinct : r.DistinctNames) (set name : String) :
    r.toCollection.stored? set name = r.stored? set name := by
  rw [SetCollection.stored?, stored?, find?_toCollection distinct]
  cases r.findByName? set <;> rfl

/-- Names are asked for in any length and compared by what is stored of them. -/
theorem find?_filtered (r : PageRecord) (set : String) (names : List String) (name : String) :
    (r.filtered set names).bind (·.find? name) =
      if names = [] ∨ name ∈ names.map truncateName then r.stored? (truncateName set) name
      else none := by
  rw [filtered, stored?]
  cases r.findByName? (truncateName set) with
  | none => simp
  | some e =>
      by_cases all : names = []
      · simp [all]
      · simp [all, SortedMap.find?_ofList_filterMap]

/--
Reading a set of a page by names and loading all sets of the page agree, in
whatever length sets and variables are asked for: a set is there for both or for
neither, and each variable asked for reads the same.
-/
theorem readers_agree {r : PageRecord} (distinct : r.DistinctNames) (set : String)
    (names : List String) :
    (r.filtered set names = none ↔ r.toCollection.get? set = none) ∧
      ∀ vars s, r.filtered set names = some vars → r.toCollection.get? set = some s →
        (names = [] → vars = s.vars) ∧
        (names ≠ [] →
          (∀ key, (vars.find? key).isSome ↔
            ∃ name ∈ names, truncateName name = key ∧ (s.get? key).isSome) ∧
          ∀ name ∈ names,
            vars.find? (truncateName name) = r.toCollection.variableIn? set name) := by
  have loaded := find?_toCollection distinct (truncateName set)
  have asked := r.find?_filtered set names
  rw [SetCollection.get?, loaded]
  cases found : r.findByName? (truncateName set) with
  | none => simp [filtered, found]
  | some e =>
      refine ⟨by simp [filtered, found], ?_⟩
      intro vars s read own
      have same : s.get? = e.2.vars.find? := by
        rw [← Option.some.inj own]
        rfl
      have stored (name : String) : r.stored? (truncateName set) name = e.2.vars.find? name := by
        rw [stored?, found, Option.bind_some]
      rw [read] at asked
      simp only [Option.bind_some, stored] at asked
      refine ⟨?_, fun some => ⟨fun key => ?_, fun name listed => ?_⟩⟩
      · intro all
        apply SortedMap.ext_find?
        intro key
        rw [asked, if_pos (Or.inl all)]
        exact (congrFun same key).symm
      · rw [asked, same]
        split
        · rename_i listed
          have listed := List.mem_map.1 (listed.resolve_left some)
          constructor
          · intro there
            rcases listed with ⟨name, listed, cut⟩
            exact ⟨name, listed, cut, there⟩
          · rintro ⟨-, -, -, there⟩
            exact there
        · rename_i apart
          simp only [Option.isSome_none, Bool.false_eq_true, false_iff]
          rintro ⟨name, listed, rfl, -⟩
          exact apart (Or.inr (List.mem_map_of_mem listed))
      · rw [asked, if_pos (Or.inr (List.mem_map_of_mem listed)), SetCollection.variableIn?,
          SetCollection.get?, loaded, found]
        rfl

/-- A name of as many characters as given. -/
def longName (length : Nat) : String := String.ofList (List.replicate length 'x')

/-- A page with a set and a variable whose names are as long as stored names can be. -/
def withLongNames : PageRecord where
  pageId := 5
  sets := .ofList
    [(1, { name := "a", revId := 1, vars := .ofList [("y", .text "1")] }),
      (2, { name := longName 50, revId := 2,
            vars := .ofList [(longName 50, .needsParse "2"), ("y", .text "3")] })]
  nextSetId := 3

/-- Longer names ask for the same set and, twice, for the same variable of it. -/
theorem readers_agree_longNames :
    let names := [longName 60, "z", longName 70]
    withLongNames.DistinctNames ∧
      withLongNames.filtered (longName 55) names = some (.ofList [(longName 50, .needsParse "2")]) ∧
      (withLongNames.filtered (longName 55) names = none ↔
        withLongNames.toCollection.get? (longName 55) = none) ∧
      withLongNames.toCollection.variableIn? (longName 55) (longName 70) =
        some (.needsParse "2") := by
  intro names
  have distinct : withLongNames.DistinctNames := by
    decide +kernel
  have read : withLongNames.filtered (longName 55) names =
      some (.ofList [(longName 50, .needsParse "2")]) := by
    decide +kernel
  rcases readers_agree distinct (longName 55) names with ⟨both, values⟩
  refine ⟨distinct, read, both, ?_⟩
  cases loaded : withLongNames.toCollection.get? (longName 55) with
  | none =>
      rw [both.2 loaded] at read
      cases read
  | some s =>
      have same := ((values _ s read loaded).2 (by decide)).2 (longName 70) (by decide)
      rw [← same]
      decide +kernel

end PageRecord

namespace Plan

variable {page : PageId} {stored : Option PageRecord} {rendered : Option SetCollection}

/-- A page that shows what was rendered has the variables of the render. -/
theorem Shows.stored?_eq {left : Option PageRecord} (shows : Shows page rendered left)
    (set name : String) :
    left.bind (·.stored? set name) = rendered.bind (·.stored? set name) := by
  cases rendered with
  | none =>
      rw [Shows] at shows
      rw [shows]
      rfl
  | some c =>
      rcases shows with ⟨r, rfl, wf, -, contents⟩
      rw [Option.bind_some, Option.bind_some, ← PageRecord.stored?_toCollection wf.distinctNames,
        SetCollection.stored?_eq_contents, contents, ← SetCollection.stored?_eq_contents]

theorem find?_contents_of_not_hasSets {c : SetCollection} (nothing : ¬c.HasSets) (name : String) :
    c.contents.find? name = none := by
  by_contra kept
  exact nothing ((hasSets_iff_contents c).2 ⟨name, kept⟩)

/-- What a page has under two names once it was planned for is what the render has there. -/
theorem stored?_outcome_between (sound : ∀ r, stored = some r → r.WellFormed ∧ r.pageId = page)
    (isRendered : RenderedFor page rendered) (now : Timestamp) (set name : String) :
    ((between (stored.map (·.toCollection)) rendered).outcome now stored).bind
        (·.stored? set name) = rendered.bind (·.stored? set name) := by
  by_cases hasSets : ∀ r, stored = some r → ∃ id s, r.sets.find? id = some s
  · refine (shows_outcome_between ?_ isRendered now).stored?_eq set name
    intro r found
    exact ⟨(sound r found).1, (sound r found).2, hasSets r found⟩
  · -- a record without sets is kept when nothing was rendered, as there is nothing to delete
    push Not at hasSets
    rcases hasSets with ⟨r, rfl, noSets⟩
    rcases sound r rfl with ⟨wf, own⟩
    have nothing : ¬r.toCollection.HasSets := by
      rw [hasSets_toCollection_iff]
      rintro ⟨id, s, found⟩
      exact noSets id s found
    cases rendered with
    | none =>
        have same : r.toCollection.contents =
            ({ pageId := r.toCollection.pageId, revId := r.toCollection.revId } :
              SetCollection).contents := by
          apply SortedMap.ext_find?
          intro name
          rw [find?_contents_of_not_hasSets nothing]
          simp
        rw [Option.map_some, between_none_right,
          outcome_of_isEmpty ((isEmpty_between_iff r _).2 same), Option.bind_some,
          ← PageRecord.stored?_toCollection wf.distinctNames, SetCollection.stored?_eq_contents,
          find?_contents_of_not_hasSets nothing]
        rfl
    | some c =>
        rcases isRendered c rfl with ⟨keyed, rendersSets, -⟩
        have differ : r.toCollection.contents ≠ c.contents := fun same =>
          nothing ((hasSets_congr same).2 rendersSets)
        have shows : Shows page (some c) ((between (some r.toCollection) (some c)).outcome now
            (some r)) := (outcome_between_loaded wf own keyed now rfl differ).2 rendersSets
        exact shows.stored?_eq set name

end Plan

end TemplateVars
