import Mathlib.Data.List.Induction
import Mathlib.Logic.Function.Basic
import TemplateVars.Proofs.Page.Names
import TemplateVars.Proofs.Store.Memory

/-!
# Writers of one page

Any number of writers load a page whenever they like and later save what they
have rendered, planned against what they had loaded. Identifiers stay below the
next one whatever the order. Names stay different as long as no save updates a
set that has been deleted meanwhile while another set has its name; the first
such save leaves two sets of one name.
-/

namespace TemplateVars

/-- Something that a writer does. -/
inductive WriterEvent where
  /-- A writer loads the page. -/
  | load (writer : Nat)
  /-- A writer saves what it has rendered, if anything. -/
  | save (writer : Nat) (rendered : Option SetCollection) (now : Timestamp)

/-- The store in memory together with what each writer has loaded last. -/
structure WriterState where
  store : MemoryStore := {}
  held : Nat → Option SetCollection := fun _ => none

namespace WriterState

variable (page : PageId)

/-- The plan of a writer, from what it has loaded to what it has rendered for the page. -/
def plan (s : WriterState) (writer : Nat) (rendered : Option SetCollection) : Plan :=
  Plan.between (s.held writer) (SetCollection.forPage page rendered)

/-- The state after an event; the operations of the store in memory do not fail. -/
def step (s : WriterState) : WriterEvent → WriterState
  | .load writer =>
      match (MemoryStore.gateway.loadSets page).run.run s.store with
      | (.ok loaded, store) => { store, held := Function.update s.held writer loaded }
      | (.error _, store) => { s with store }
  | .save writer rendered now =>
      { s with
        store := ((MemoryStore.gateway.savePlan (s.plan page writer rendered) now).run.run
          s.store).2 }

/-- The state after events in their order, from a page without a record. -/
def run (events : List WriterEvent) : WriterState := events.foldl (step page) {}

/-- No two sets stored for the page share a name. -/
def DistinctNames (s : WriterState) : Prop :=
  ∀ r, s.store.record? page = some r → r.DistinctNames

/-- What every run keeps: identifiers are below the next one, and all is about the page. -/
structure Ordered (s : WriterState) : Prop where
  idsBelow : ∀ r, s.store.record? page = some r → r.IdsBelow
  pageId_record : ∀ r, s.store.record? page = some r → r.pageId = page
  pageId_held : ∀ writer c, s.held writer = some c → c.pageId = page

variable {page}

theorem ordered_initial : Ordered page {} := ⟨nofun, nofun, nofun⟩

theorem Ordered.pageId_plan {s : WriterState} (ordered : s.Ordered page) (writer : Nat)
    (rendered : Option SetCollection) :
    (s.plan page writer rendered).isEmpty = true ∨
      (s.plan page writer rendered).pageId = page :=
  Plan.pageId_between (ordered.pageId_held writer) fun _ => SetCollection.pageId_of_forPage

/-- A save turns what the page holds into the outcome of the plan. -/
theorem Ordered.record?_save {s : WriterState} (ordered : s.Ordered page) (writer : Nat)
    (rendered : Option SetCollection) (now : Timestamp) :
    (s.step page (.save writer rendered now)).store.record? page =
      (s.plan page writer rendered).outcome now (s.store.record? page) := by
  rw [step, MemoryStore.run_savePlan,
    MemoryStore.record?_save_of_own (ordered.pageId_plan writer rendered), if_pos rfl]

theorem Ordered.idsBelow_record {s : WriterState} (ordered : s.Ordered page) :
    (s.store.recordOf page).IdsBelow :=
  MemoryStore.recordOf_induction (PageRecord.wellFormed_new page).idsBelow ordered.idsBelow

/-- What a save leaves is what was there or what applying the plan leaves. -/
theorem Ordered.record?_save_eq_some {s : WriterState} (ordered : s.Ordered page) {writer : Nat}
    {rendered : Option SetCollection} {now : Timestamp} {r : PageRecord}
    (found : (s.step page (.save writer rendered now)).store.record? page = some r) :
    s.store.record? page = some r ∨
      ((s.plan page writer rendered).apply now (s.store.recordOf page)).record = r := by
  rw [ordered.record?_save] at found
  rcases Plan.outcome_eq_some found with same | ⟨busy, applied⟩
  · exact Or.inl same
  · have own := (ordered.pageId_plan writer rendered).resolve_left (by simp [busy])
    rw [own] at applied
    exact Or.inr applied

theorem Ordered.step {s : WriterState} (ordered : s.Ordered page) (event : WriterEvent) :
    (s.step page event).Ordered page := by
  cases event with
  | load writer =>
      refine ⟨ordered.idsBelow, ordered.pageId_record, ?_⟩
      intro other c held
      simp only [WriterState.step, MemoryStore.run_loadSets, Function.update_apply] at held
      split at held
      · rcases Option.map_eq_some_iff.1 held with ⟨r, stored, rfl⟩
        rw [PageRecord.pageId_toCollection]
        exact ordered.pageId_record r stored
      · exact ordered.pageId_held other c held
  | save writer rendered now =>
      have kept : ∀ r, (s.step page (.save writer rendered now)).store.record? page = some r →
          r.IdsBelow ∧ r.pageId = page := by
        intro r found
        rcases ordered.record?_save_eq_some found with same | rfl
        · exact ⟨ordered.idsBelow r same, ordered.pageId_record r same⟩
        · refine ⟨Plan.idsBelow_apply ordered.idsBelow_record now, ?_⟩
          rw [Plan.pageId_apply]
          exact MemoryStore.recordOf_induction (motive := fun r => r.pageId = page) rfl
            ordered.pageId_record
      exact ⟨fun r found => (kept r found).1, fun r found => (kept r found).2,
        ordered.pageId_held⟩

theorem ordered_run (events : List WriterEvent) : (run page events).Ordered page := by
  have folded (events : List WriterEvent) {s : WriterState} (ordered : s.Ordered page) :
      (events.foldl (WriterState.step page) s).Ordered page := by
    induction events generalizing s with
    | nil => exact ordered
    | cons event events ih => exact ih (ordered.step event)
  exact folded events ordered_initial

/-- Where names differ, a save leaves them different exactly if its plan clashes with nothing. -/
theorem Ordered.distinctNames_save_iff {s : WriterState} (ordered : s.Ordered page)
    (distinct : s.DistinctNames page) (writer : Nat) (rendered : Option SetCollection)
    (now : Timestamp) :
    (s.step page (.save writer rendered now)).DistinctNames page ↔
      ¬(s.plan page writer rendered).Clashes (s.store.recordOf page) := by
  unfold DistinctNames
  rw [ordered.record?_save]
  have wf : (s.store.recordOf page).WellFormed :=
    ⟨MemoryStore.recordOf_induction (PageRecord.wellFormed_new page).distinctNames distinct,
      ordered.idsBelow_record⟩
  rcases ordered.pageId_plan writer rendered with nothing | own
  · rw [Plan.outcome_of_isEmpty nothing]
    exact ⟨fun _ => Plan.not_clashes_of_isEmpty nothing _, fun _ => distinct⟩
  · have same : s.store.recordOf page =
        (s.store.record? page).getD { pageId := (s.plan page writer rendered).pageId } := by
      rw [MemoryStore.recordOf, own]
    rw [same] at wf ⊢
    exact Plan.distinctNames_outcome_iff wf now

/--
Along a run of writers no record ever holds two sets of one name exactly if no
save clashes: no update comes upon a record from which its set is gone while
another set has the name.
-/
theorem distinctNames_run_iff (page : PageId) (events : List WriterEvent) :
    (∀ done, done <+: events → (run page done).DistinctNames page) ↔
      ∀ done writer rendered now, done ++ [.save writer rendered now] <+: events →
        ¬((run page done).plan page writer rendered).Clashes
          ((run page done).store.recordOf page) := by
  have run_append (done : List WriterEvent) (event : WriterEvent) :
      run page (done ++ [event]) = (run page done).step page event := List.foldl_concat ..
  constructor
  · intro distinct done writer rendered now started
    have before : (run page done).DistinctNames page :=
      distinct done ((List.prefix_append done _).trans started)
    rw [← (ordered_run done).distinctNames_save_iff before writer rendered now, ← run_append]
    exact distinct _ started
  · -- up to the first clash names differ, which is what the step lemma needs
    intro calm done
    induction done using List.reverseRecOn with
    | nil => exact fun _ => nofun
    | append_singleton done event ih =>
        intro started
        have before := ih ((List.prefix_append done _).trans started)
        rw [run_append]
        cases event with
        | load writer => exact before
        | save writer rendered now =>
            rw [(ordered_run done).distinctNames_save_iff before]
            exact calm done writer rendered now started

/-- Sets of one variable each, given by their names and its texts. -/
def textSets (entries : List (String × String)) : SetCollection where
  pageId := 0
  revId := 1
  sets := .ofList <| entries.map fun (name, text) =>
    (name, { name, vars := .ofList [("x", .text text)] })

/-- Two writers update a set that a third one deletes between their loading and saving. -/
def updatedTwice : List WriterEvent :=
  let now : Timestamp := ⟨2024, 1, 1, 0, 0, 0, 0⟩
  [.save 0 (some (textSets [("a", "1"), ("b", "1")])) now,
    .load 0, .load 1, .load 2,
    .save 0 (some (textSets [("b", "1")])) now,
    .save 1 (some (textSets [("a", "2"), ("b", "1")])) now,
    .save 2 (some (textSets [("a", "3"), ("b", "1")])) now]

/-- Each of the two updates stores the set anew, and the page ends up with two sets of its name. -/
theorem updatedTwice_not_distinctNames :
    ((run 5 updatedTwice).store.record? 5).map
        (fun r => r.sets.toList.map fun e => (e.1, e.2.name)) =
      some [(2, "b"), (3, "a"), (4, "a")] ∧
      ¬(run 5 updatedTwice).DistinctNames 5 := by
  refine ⟨by decide, fun distinct => ?_⟩
  have same : 3 = 4 := distinct _ rfl 3 4 _ _ rfl rfl rfl
  cases same

end WriterState

end TemplateVars
