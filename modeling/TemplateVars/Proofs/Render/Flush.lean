import TemplateVars.Proofs.Render.Engine
import TemplateVars.Proofs.Store.Memory

/-!
# Flushing renders into the store in memory

Any number of renders save variables, flush their stashes and delete pages, in
any order. Whatever happened before, a flush succeeds, makes its page show what
the stash held and leaves all other pages alone. The invariant has two halves:
a stash holds a collection only once it has a set, under its own name; and a
page holds nothing or a well-formed record with at least one set.
-/

namespace TemplateVars

/-- Something that a render does, or that happens to a page. -/
inductive RenderEvent where
  /-- A render saves variables of a frame. -/
  | save (render : Nat) (call : VerbCall) (tree : Tree) (frame : FrameId) (page : PageId)
  /-- A render is done and flushes its stash to a page. -/
  | flush (render : Nat) (page : PageId) (rev : RevId) (now : Timestamp)
  /-- A page is deleted. -/
  | pageDeleted (page : PageId)

/-- The store in memory together with the stash of each render. -/
structure RenderState where
  store : MemoryStore := {}
  stashes : Nat → Stash := fun _ => {}

namespace RenderState

/-- The engine of a host that stores variables in memory. -/
def engine (define : Bool) : Engine MemoryStore where
  features := { define, data := true }
  gateway := MemoryStore.gateway

/-- The state after an event. -/
def step (define : Bool) (s : RenderState) : RenderEvent → RenderState
  | .save render call tree frame page =>
      let stash := ((engine define).save call tree frame page (s.stashes render)).value.2
      { s with stashes := Function.update s.stashes render stash }
  | .flush render page rev now =>
      let (_, stash, store) := (engine define).flush (s.stashes render) page rev now s.store
      { store, stashes := Function.update s.stashes render stash }
  | .pageDeleted page =>
      { s with store := (((engine define).pageDeleted page).run.run s.store).2 }

/-- The state after events in their order, from an empty store and empty stashes. -/
def run (define : Bool) (events : List RenderEvent) : RenderState :=
  events.foldl (step define) {}

end RenderState

/-! ### Stashes -/

/-- A collection in a stash is kept by name and has a set. -/
def Stash.Gathered (stash : Stash) : Prop :=
  ∀ c, stash.get? savedSetsKey = some c → c.Keyed ∧ c.HasSets

namespace SetCollection

theorem Keyed.name_setOrNew {c : SetCollection} (keyed : c.Keyed) (name : String) :
    (c.setOrNew name).name = truncateName name := by
  rw [setOrNew]
  cases found : c.sets.find? (truncateName name) with
  | none => simp [VariableSet.ofName]
  | some s => exact keyed _ s found

/-- Saving into a set keeps the collection by name, and the set is there afterwards. -/
theorem Keyed.modifySet {c : SetCollection} (keyed : c.Keyed) (name : String)
    {change : VariableSet → VariableSet} (keepsName : ∀ s, (change s).name = s.name) :
    (c.modifySet name change).Keyed ∧ (c.modifySet name change).HasSets := by
  constructor
  · intro key s found
    simp only [SetCollection.modifySet, SortedMap.find?_insert] at found
    split at found
    · rename_i same
      cases found
      rw [keepsName, keyed.name_setOrNew, same]
    · exact keyed key s found
  · refine ⟨truncateName name, change (c.setOrNew name), ?_⟩
    simp [SetCollection.modifySet]

end SetCollection

namespace Engine

variable {σ : Type} (e : Engine σ)

theorem save_gathered (call : VerbCall) (t : Tree) (frame : FrameId) (page : PageId)
    {stash : Stash} (gathered : stash.Gathered) :
    (e.save call t frame page stash).value.2.Gathered := by
  unfold save
  split
  · exact gathered
  · simp only [Expanding.value_bind]
    split
    · exact gathered
    · intro c kept
      simp only [Expanding.value_pure, Stash.get?_put] at kept
      cases kept
      apply SetCollection.Keyed.modifySet
      · cases before : stash.get? savedSetsKey with
        | none =>
            intro key s found
            simp at found
        | some c => exact (gathered c before).1
      · intro s
        exact VariableSet.name_insertAll s _

end Engine

/-! ### Flushing -/

namespace RenderState

/-- The plan that a flush makes. -/
def flushPlan (store : MemoryStore) (stash : Stash) (page : PageId) (rev : RevId) : Plan :=
  Plan.between ((store.record? page).map (·.toCollection)) (stash.handedOver page rev)

/-- What a flush reports. -/
def flushOutcome (store : MemoryStore) (p : Plan) (now : Timestamp) : FlushOutcome :=
  if p.isEmpty then .unchanged else .applied (store.save p now).1

theorem flush_eq (define : Bool) (stash : Stash) (page : PageId) (rev : RevId) (now : Timestamp)
    (store : MemoryStore) :
    (engine define).flush stash page rev now store =
      (.ok (flushOutcome store (flushPlan store stash page rev) now),
        (stash.take savedSetsKey).2, (store.save (flushPlan store stash page rev) now).2) := by
  have persisted : (Engine.flush.persist (engine define) page now
      (stash.handedOver page rev)).run.run store =
        (.ok (flushOutcome store (flushPlan store stash page rev) now),
          (store.save (flushPlan store stash page rev) now).2) := by
    refine (Action.run_bind_of_ok (MemoryStore.run_loadSets page store) _).trans ?_
    change StateT.run (ExceptT.run (if (flushPlan store stash page rev).isEmpty then _ else _))
      store = _
    unfold flushOutcome
    split
    · rename_i nothing
      rw [MemoryStore.save, if_pos nothing]
      rfl
    · exact Action.run_bind_of_ok (MemoryStore.run_savePlan _ now store) _
  rw [Engine.flush_of_enabled rfl, persisted]

end RenderState

namespace Stash

/-- What a stash hands over is fit to be planned for. -/
theorem Gathered.renderedFor {stash : Stash} (gathered : stash.Gathered) (page : PageId)
    (rev : RevId) : Plan.RenderedFor page (stash.handedOver page rev) := by
  intro c handed
  rcases Option.map_eq_some_iff.1 handed with ⟨kept, found, rfl⟩
  have ⟨keyed, hasSets⟩ := gathered kept found
  exact ⟨keyed, hasSets, rfl⟩

theorem gathered_take (stash : Stash) : (stash.take savedSetsKey).2.Gathered := by
  intro c kept
  simp at kept

end Stash

namespace RenderState

/-- A flush changes its page as its plan says, and no other page. -/
theorem record?_flush {store : MemoryStore} (sound : store.Sound) (stash : Stash) (page : PageId)
    (rev : RevId) (now : Timestamp) (other : PageId) :
    (store.save (flushPlan store stash page rev) now).2.record? other =
      if other = page then (flushPlan store stash page rev).outcome now (store.record? page)
      else store.record? other := by
  apply MemoryStore.record?_save_of_own
  apply Plan.pageId_between
  · intro c loaded
    rcases Option.map_eq_some_iff.1 loaded with ⟨r, stored, rfl⟩
    rw [PageRecord.pageId_toCollection]
    exact (sound page r stored).2.1
  · intro c handed
    rcases Option.map_eq_some_iff.1 handed with ⟨held, -, rfl⟩
    rfl

/-- After a flush the page shows what the stash held. -/
theorem shows_flush {store : MemoryStore} (sound : store.Sound) {stash : Stash}
    (gathered : stash.Gathered) (page : PageId) (rev : RevId) (now : Timestamp) :
    Plan.Shows page (stash.handedOver page rev)
      ((store.save (flushPlan store stash page rev) now).2.record? page) := by
  rw [record?_flush sound, if_pos rfl]
  exact Plan.shows_outcome_between (sound page) (gathered.renderedFor page rev) now

theorem sound_flush {store : MemoryStore} (sound : store.Sound) {stash : Stash}
    (gathered : stash.Gathered) (page : PageId) (rev : RevId) (now : Timestamp) :
    (store.save (flushPlan store stash page rev) now).2.Sound := by
  intro other
  by_cases own : other = page
  · subst own
    exact (shows_flush sound gathered other rev now).soundFor (gathered.renderedFor other rev)
  · rw [record?_flush sound, if_neg own]
    exact sound other

/-! ### Runs -/

/-- What every reachable state satisfies: pages are sound and stashes gathered by saving. -/
structure Settled (s : RenderState) : Prop where
  sound : s.store.Sound
  gathered : ∀ render, (s.stashes render).Gathered

theorem settled_initial : Settled {} where
  sound := MemoryStore.sound_empty
  gathered := by
    intro render c kept
    simp [Stash.get?] at kept

theorem Settled.step {s : RenderState} (settled : s.Settled) (define : Bool)
    (event : RenderEvent) : (s.step define event).Settled := by
  have updated {render : Nat} {stash : Stash} (fit : stash.Gathered) (other : Nat) :
      (Function.update s.stashes render stash other).Gathered := by
    by_cases own : other = render
    · rw [own, Function.update_self]
      exact fit
    · rw [Function.update_of_ne own]
      exact settled.gathered other
  cases event with
  | save render call tree frame page =>
      exact ⟨settled.sound,
        updated (Engine.save_gathered _ call tree frame page (settled.gathered render))⟩
  | flush render page rev now =>
      simp only [RenderState.step, flush_eq]
      exact ⟨sound_flush settled.sound (settled.gathered render) page rev now,
        updated (Stash.gathered_take _)⟩
  | pageDeleted page => exact ⟨settled.sound.deleteAll page, settled.gathered⟩

theorem Settled.foldl {s : RenderState} (settled : s.Settled) (define : Bool)
    (events : List RenderEvent) : (events.foldl (RenderState.step define) s).Settled := by
  induction events generalizing s with
  | nil => exact settled
  | cons event events ih => exact ih (settled.step define event)

theorem settled_run (define : Bool) (events : List RenderEvent) : (run define events).Settled :=
  settled_initial.foldl define events

/-- Loading a page gives a collection that says what was saved, or none if none was. -/
def Loads (store : MemoryStore) (page : PageId) (saved : Option SetCollection) : Prop :=
  ∃ loaded, (MemoryStore.gateway.loadSets page).run.run store = (.ok loaded, store) ∧
    loaded.map (·.contents) = saved.map (·.contents)

theorem loads_of_shows {store : MemoryStore} {page : PageId} {stash : Stash} {rev : RevId}
    (shows : Plan.Shows page (stash.handedOver page rev) (store.record? page)) :
    Loads store page (stash.get? savedSetsKey) := by
  refine ⟨_, MemoryStore.run_loadSets page store, ?_⟩
  unfold Stash.handedOver at shows
  cases held : stash.get? savedSetsKey with
  | none =>
      rw [held] at shows
      have absent : store.record? page = none := shows
      rw [absent]
      rfl
  | some c =>
      rw [held] at shows
      rcases shows with ⟨r, found, -, -, contents⟩
      rw [found]
      simp only [Option.map_some, contents]
      rfl

/--
After any run of renders, flushing a stash succeeds. Loading the page then gives
exactly the sets that the stash held, and no other page has changed. That
nothing changed is only reported when the page held those sets before.
-/
theorem loads_after_flush (define : Bool) (events : List RenderEvent) (render : Nat)
    (page : PageId) (rev : RevId) (now : Timestamp) :
    let before := run define events
    let stash := before.stashes render
    let saved := stash.get? savedSetsKey
    ∃ outcome store,
      (engine define).flush stash page rev now before.store =
        (.ok outcome, (stash.take savedSetsKey).2, store) ∧
      Loads store page saved ∧
      (outcome = .unchanged → Loads before.store page saved) ∧
      ∀ other, other ≠ page → store.record? other = before.store.record? other := by
  intro before stash saved
  have settled : before.Settled := settled_run define events
  have loads := loads_of_shows (shows_flush settled.sound (settled.gathered render) page rev now)
  refine ⟨_, _, flush_eq define stash page rev now before.store, loads, ?_, ?_⟩
  · intro unchanged
    have nothing : (flushPlan before.store stash page rev).isEmpty = true := by
      by_contra busy
      simp [flushOutcome, busy] at unchanged
    rwa [MemoryStore.save, if_pos nothing] at loads
  · intro other distinct
    rw [record?_flush settled.sound, if_neg distinct]

end RenderState

end TemplateVars
