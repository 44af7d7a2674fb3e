import TemplateVars.Proofs.Page.Overlap
import TemplateVars.Proofs.Render.Flush
import TemplateVars.Proofs.Store.Writers

/-!
# Flushes that overlap

A flush calls the store twice: it loads the page, and later it saves the plan
that it has made. Each call is done as a whole, but the calls of another flush
can come in between. If both flushes of a page load before either of them
saves, the second one is planned against sets that are no longer stored, and
the page may end up with sets that neither order of the two flushes gives.
-/

namespace TemplateVars

/-- The ways in which two sequences can be shuffled into one. -/
inductive Shuffle {α : Type} : List α → List α → List α → Prop where
  | nil : Shuffle [] [] []
  | left {e : α} {l r order : List α} (rest : Shuffle l r order) : Shuffle (e :: l) r (e :: order)
  | right {e : α} {l r order : List α} (rest : Shuffle l r order) : Shuffle l (e :: r) (e :: order)

theorem Shuffle.eq_right {α : Type} {r order : List α} (shuffled : Shuffle [] r order) :
    order = r := by
  induction r generalizing order with
  | nil =>
      cases shuffled
      rfl
  | cons e r ih =>
      cases shuffled with
      | right rest => rw [ih rest]

theorem Shuffle.eq_left {α : Type} {l order : List α} (shuffled : Shuffle l [] order) :
    order = l := by
  induction l generalizing order with
  | nil =>
      cases shuffled
      rfl
  | cons e l ih =>
      cases shuffled with
      | left rest => rw [ih rest]

/-- One of two pairs comes first as a whole, or both begin before either of them ends. -/
theorem Shuffle.pairs {α : Type} {a a' b b' : α} {order : List α}
    (shuffled : Shuffle [a, a'] [b, b'] order) :
    (order = [a, a', b, b'] ∨ order = [b, b', a, a']) ∨
      (order = [a, b, a', b'] ∨ order = [b, a, a', b']) ∨
      order = [a, b, b', a'] ∨ order = [b, a, b', a'] := by
  cases shuffled with
  | left rest =>
      cases rest with
      | left rest => simp [rest.eq_right]
      | right rest =>
          cases rest with
          | left rest => simp [rest.eq_right]
          | right rest => simp [rest.eq_left]
  | right rest =>
      cases rest with
      | right rest => simp [rest.eq_left]
      | left rest =>
          cases rest with
          | left rest => simp [rest.eq_right]
          | right rest => simp [rest.eq_left]

namespace RenderState

/-- The store after a flush. -/
def afterFlush (define : Bool) (stash : Stash) (page : PageId) (rev : RevId) (now : Timestamp)
    (store : MemoryStore) : MemoryStore :=
  ((engine define).flush stash page rev now store).2.2

/-- What a flush asks of the store. -/
def flushCalls (writer : Nat) (stash : Stash) (page : PageId) (rev : RevId) (now : Timestamp) :
    List WriterEvent :=
  [.load writer, .save writer (stash.handedOver page rev) now]

/-- The record of a page once some calls have been made. -/
def recordAfter (page : PageId) (store : MemoryStore) (calls : List WriterEvent) : PageRecord :=
  (calls.foldl (WriterState.step page) { store }).store.recordOf page

variable {page : PageId}

theorem forPage_handedOver (stash : Stash) (rev : RevId) :
    SetCollection.forPage page (stash.handedOver page rev) = stash.handedOver page rev := by
  cases held : stash.get? savedSetsKey <;> simp [SetCollection.forPage, Stash.handedOver, held]

/-- What a writer saves is what a flush plans against the sets that the writer has loaded. -/
theorem store_save {s : WriterState} {writer : Nat} {loadedFrom : MemoryStore}
    (held : s.held writer = (loadedFrom.record? page).map (·.toCollection)) (stash : Stash)
    (rev : RevId) (now : Timestamp) :
    (s.step page (.save writer (stash.handedOver page rev) now)).store =
      (s.store.save (flushPlan loadedFrom stash page rev) now).2 := by
  simp [WriterState.step, WriterState.plan, MemoryStore.run_savePlan, forPage_handedOver, held,
    flushPlan]

/-- A flush does to the store what its two calls do, one right after the other. -/
theorem store_flushCalls (define : Bool) (s : WriterState) (writer : Nat) (stash : Stash)
    (rev : RevId) (now : Timestamp) :
    ((flushCalls writer stash page rev now).foldl (WriterState.step page) s).store =
      afterFlush define stash page rev now s.store := by
  have loaded : (s.step page (.load writer)).held writer =
      (s.store.record? page).map (·.toCollection) := by
    simp [WriterState.step, MemoryStore.run_loadSets]
  rw [afterFlush, flush_eq, flushCalls, List.foldl_cons, List.foldl_cons, List.foldl_nil,
    store_save loaded]
  rfl

theorem flushPlan_eq (store : MemoryStore) {stash : Stash} {rev : RevId} {c : SetCollection}
    (handed : stash.handedOver page rev = some c) :
    flushPlan store stash page rev =
      Plan.between (some (store.recordOf page).toCollection) (some c) := by
  have own : c.pageId = page := by
    rcases Option.map_eq_some_iff.1 handed with ⟨kept, -, rfl⟩
    rfl
  rw [flushPlan, handed]
  cases stored : store.record? page with
  | none =>
      rw [MemoryStore.recordOf_eq_of_none stored, Option.map_none, Plan.between_none_left, own]
  | some r => rw [MemoryStore.recordOf_eq_of_some stored, Option.map_some]

/-- Saving the plan of a flush that hands sets over applies it to the record of the page. -/
theorem recordOf_save {stash : Stash} {rev : RevId} {c : SetCollection}
    (handed : stash.handedOver page rev = some c) (hasSets : c.HasSets) (store m : MemoryStore)
    (now : Timestamp) :
    (m.save (flushPlan store stash page rev) now).2.recordOf page =
      ((flushPlan store stash page rev).apply now (m.recordOf page)).record := by
  set p := flushPlan store stash page rev with planned
  have own : p.pageId = page := by
    rw [planned, flushPlan, handed, Plan.pageId_between_some]
    rcases Option.map_eq_some_iff.1 handed with ⟨kept, -, rfl⟩
    rfl
  cases busy : p.isEmpty with
  | true =>
      rw [MemoryStore.save, if_pos busy, Plan.apply_of_isEmpty busy]
  | false =>
      have written : (p.outcome now (m.record? page)).isSome = true := by
        apply Plan.outcome_isSome busy
        rw [planned, flushPlan, handed] at busy ⊢
        exact Plan.writes_between hasSets busy
      have before : (m.record? page).getD { pageId := p.pageId } = m.recordOf page := by
        rw [own, MemoryStore.recordOf]
      rw [MemoryStore.recordOf, MemoryStore.record?_save, if_pos own.symm]
      rw [Plan.outcome_of_busy busy now before] at written ⊢
      split at written
      · cases written
      · rename_i kept
        rw [if_neg kept, Option.getD_some]

theorem foldl_load {store : MemoryStore} (writers : List Nat) {s : WriterState}
    (same : s.store = store) :
    let s' := (writers.map WriterEvent.load).foldl (WriterState.step page) s
    s'.store = store ∧ ∀ v, v ∈ writers ∨ s.held v = (store.record? page).map (·.toCollection) →
      s'.held v = (store.record? page).map (·.toCollection) := by
  induction writers generalizing s with
  | nil => simp [same]
  | cons w writers ih =>
      have loaded : (s.step page (.load w)).held =
          Function.update s.held w ((store.record? page).map (·.toCollection)) := by
        simp [WriterState.step, MemoryStore.run_loadSets, same]
      have kept : (s.step page (.load w)).store = store := same
      refine ⟨(ih kept).1, ?_⟩
      intro v known
      apply (ih kept).2
      rw [loaded, Function.update_apply]
      by_cases own : v = w
      · simp [own]
      · simpa [own] using known

theorem recordAfter_serial (define : Bool) (store : MemoryStore) (v w : Nat)
    (stashA stashB : Stash) (revA revB : RevId) (nowA nowB : Timestamp) :
    recordAfter page store
        (flushCalls v stashA page revA nowA ++ flushCalls w stashB page revB nowB) =
      (afterFlush define stashB page revB nowB
        (afterFlush define stashA page revA nowA store)).recordOf page := by
  rw [recordAfter, List.foldl_append, store_flushCalls define, store_flushCalls define]

/-- After a flush that hands sets over, the record of the page says what they say. -/
theorem recordOf_flush {store : MemoryStore} (sound : store.Sound) {stash : Stash}
    (gathered : stash.Gathered) {rev : RevId} {c : SetCollection}
    (handed : stash.handedOver page rev = some c) (now : Timestamp) :
    let r := (store.save (flushPlan store stash page rev) now).2.recordOf page
    r.WellFormed ∧ r.toCollection.contents = c.contents := by
  intro r
  have shows := shows_flush sound gathered page rev now
  rw [handed] at shows
  rcases shows with ⟨r', stored, wf, -, contents⟩
  have same : r = r' := MemoryStore.recordOf_eq_of_some stored
  rw [same]
  exact ⟨wf, contents⟩

section TwoFlushes

variable {store : MemoryStore} {stashA stashB : Stash} {revA revB : RevId} {a b : SetCollection}
  (sound : store.Sound) (gatheredA : stashA.Gathered) (gatheredB : stashB.Gathered)
  (handedA : stashA.handedOver page revA = some a) (handedB : stashB.handedOver page revB = some b)

include sound gatheredA gatheredB handedB

/-- Of two whole flushes the last one determines what is stored. -/
theorem recordOf_two_flushes (define : Bool) (revA : RevId) (nowA nowB : Timestamp) :
    let r := (afterFlush define stashB page revB nowB
      (afterFlush define stashA page revA nowA store)).recordOf page
    r.WellFormed ∧ r.toCollection.contents = b.contents := by
  simp only [afterFlush, flush_eq]
  exact recordOf_flush (sound_flush sound gatheredA page revA nowA) gatheredB handedB nowB

include handedA

/-- Two writers that have loaded the same sets save one after another. -/
theorem recordAfter_overlap (loads : List Nat) {v w : Nat} (loadedA : v ∈ loads)
    (loadedB : w ∈ loads) (nowA nowB : Timestamp) :
    let r := recordAfter page store (loads.map WriterEvent.load ++
      [.save v (stashA.handedOver page revA) nowA, .save w (stashB.handedOver page revB) nowB])
    r.WellFormed ∧
      (r.toCollection.contents = a.contents ∨ r.toCollection.contents = b.contents ↔
        SetCollection.LeavesOne (store.recordOf page).toCollection a b) := by
  intro r
  have wf : (store.recordOf page).WellFormed :=
    MemoryStore.recordOf_induction (PageRecord.wellFormed_new page) fun q stored =>
      (sound page q stored).1
  rcases gatheredA.renderedFor page revA a handedA with ⟨keyedA, hasSetsA, -⟩
  rcases gatheredB.renderedFor page revB b handedB with ⟨keyedB, hasSetsB, -⟩
  let s := (loads.map WriterEvent.load).foldl (WriterState.step page) { store }
  have ⟨same, held⟩ : s.store = store ∧ _ := foldl_load loads rfl
  let s' := s.step page (.save v (stashA.handedOver page revA) nowA)
  have heldA : s.held v = (store.record? page).map (·.toCollection) := held v (Or.inl loadedA)
  have heldB : s'.held w = (store.record? page).map (·.toCollection) := held w (Or.inl loadedB)
  let plan (c : SetCollection) := Plan.between (some (store.recordOf page).toCollection) (some c)
  -- the second plan is made against what was stored first, not against what the first one leaves
  have overlapped :
      r = ((plan b).apply nowB ((plan a).apply nowA (store.recordOf page)).record).record := by
    have calls : r = (s'.step page (.save w (stashB.handedOver page revB) nowB)).store.recordOf
        page := by
      simp only [r, recordAfter, List.foldl_append, List.foldl_cons, List.foldl_nil]
      rfl
    rw [calls, store_save heldB, store_save heldA, same, recordOf_save handedB hasSetsB,
      recordOf_save handedA hasSetsA, flushPlan_eq store handedA, flushPlan_eq store handedB]
  rw [overlapped]
  exact ⟨Plan.wellFormed_overlap wf keyedA keyedB nowA nowB,
    Plan.contents_overlap_iff wf keyedA keyedB nowA nowB⟩

end TwoFlushes

/--
Two renders flush the same page. However their calls follow each other, the
page ends up with sets of different names. These are the sets that one of the
two orders of the whole flushes gives exactly if one flush is done before the
other one loads, or if what is saved last changes nothing, overrules what is
saved first or repeats it.
-/
theorem serializes_iff (define : Bool) (events : List RenderEvent) {i j : Nat}
    {revA revB : RevId} {a b : SetCollection}
    (handedA : ((run define events).stashes i).handedOver page revA = some a)
    (handedB : ((run define events).stashes j).handedOver page revB = some b)
    {nowA nowB : Timestamp} {order : List WriterEvent}
    (shuffled : Shuffle (flushCalls 0 ((run define events).stashes i) page revA nowA)
      (flushCalls 1 ((run define events).stashes j) page revB nowB) order) :
    let before := run define events
    let flushA := afterFlush define (before.stashes i) page revA nowA
    let flushB := afterFlush define (before.stashes j) page revB nowB
    let callsA := flushCalls 0 (before.stashes i) page revA nowA
    let callsB := flushCalls 1 (before.stashes j) page revB nowB
    let stored := (before.store.recordOf page).toCollection
    let final := recordAfter page before.store order
    final.WellFormed ∧
      (final.toCollection.contents =
            ((flushB (flushA before.store)).recordOf page).toCollection.contents ∨
          final.toCollection.contents =
            ((flushA (flushB before.store)).recordOf page).toCollection.contents ↔
        order = callsA ++ callsB ∨ order = callsB ++ callsA ∨
          order.getLast? = callsB.getLast? ∧ SetCollection.LeavesOne stored a b ∨
          order.getLast? = callsA.getLast? ∧ SetCollection.LeavesOne stored b a) := by
  have settled : (run define events).Settled := settled_run define events
  generalize run define events = reached at handedA handedB shuffled settled
  intro before flushA flushB callsA callsB stored final
  have gatheredA := settled.gathered i
  have gatheredB := settled.gathered j
  have ⟨wfB, afterB⟩ :=
    recordOf_two_flushes settled.sound gatheredA gatheredB handedB define revA nowA nowB
  have ⟨wfA, afterA⟩ :=
    recordOf_two_flushes settled.sound gatheredB gatheredA handedA define revB nowB nowA
  -- either flush may be the one that saves last
  have lastB (loads : List Nat) (loadedA : 0 ∈ loads) (loadedB : 1 ∈ loads) :=
    recordAfter_overlap settled.sound gatheredA gatheredB handedA handedB loads loadedA loadedB
      nowA nowB
  have lastA (loads : List Nat) (loadedA : 0 ∈ loads) (loadedB : 1 ∈ loads) :=
    recordAfter_overlap settled.sound gatheredB gatheredA handedB handedA loads loadedB loadedA
      nowB nowA
  rw [afterA, afterB]
  rcases shuffled.pairs with (rfl | rfl) | (rfl | rfl) | (rfl | rfl)
  · have serial : final = (flushB (flushA before.store)).recordOf page := recordAfter_serial ..
    rw [serial]
    exact ⟨wfB, iff_of_true (Or.inl afterB) (Or.inl rfl)⟩
  · have serial : final = (flushA (flushB before.store)).recordOf page := recordAfter_serial ..
    rw [serial]
    exact ⟨wfA, iff_of_true (Or.inr afterA) (Or.inr (Or.inl rfl))⟩
  · rcases lastB [0, 1] (by decide) (by decide) with ⟨wf, leavesOne⟩
    refine ⟨wf, or_comm.trans (leavesOne.trans ?_)⟩
    simp [callsA, callsB, flushCalls, stored, before]
  · rcases lastB [1, 0] (by decide) (by decide) with ⟨wf, leavesOne⟩
    refine ⟨wf, or_comm.trans (leavesOne.trans ?_)⟩
    simp [callsA, callsB, flushCalls, stored, before]
  · rcases lastA [0, 1] (by decide) (by decide) with ⟨wf, leavesOne⟩
    refine ⟨wf, leavesOne.trans ?_⟩
    simp [callsA, callsB, flushCalls, stored, before]
  · rcases lastA [1, 0] (by decide) (by decide) with ⟨wf, leavesOne⟩
    refine ⟨wf, leavesOne.trans ?_⟩
    simp [callsA, callsB, flushCalls, stored, before]

/-- A page that binds two variables. -/
def pageOf (x y : String) : Tree where
  frames := #[
    { depth := 0, parent := none, title := "P"
      named := (OrderedMap.empty.insert "x" 0).insert "y" 1 }]
  nodes := #[.text x, .text y]
  expander := id

/-- The call that saves both of them. -/
def saveBoth : VerbCall := { name := "x", extra := ["y"] }

/-- Once a page is stored, two renders save it, each with another variable changed. -/
def changedTwice : List RenderEvent :=
  [.save 0 saveBoth (pageOf "1" "1") Tree.root 5,
    .flush 0 5 1 ⟨2024, 1, 1, 0, 0, 0, 0⟩,
    .save 0 saveBoth (pageOf "2" "1") Tree.root 5,
    .save 1 saveBoth (pageOf "1" "2") Tree.root 5]

/-- Both flushes load before the first one saves: each change is kept, as neither order does. -/
theorem changedTwice_not_serial :
    let now : Timestamp := ⟨2024, 1, 2, 0, 0, 0, 0⟩
    let before := run true changedTwice
    let flushA := afterFlush true (before.stashes 0) 5 2 now
    let flushB := afterFlush true (before.stashes 1) 5 3 now
    let order := [.load 0, .load 1, .save 0 ((before.stashes 0).handedOver 5 2) now,
      .save 1 ((before.stashes 1).handedOver 5 3) now]
    let final := recordAfter 5 before.store order
    Shuffle (flushCalls 0 (before.stashes 0) 5 2 now) (flushCalls 1 (before.stashes 1) 5 3 now)
        order ∧
      final.vars? "" = some (.ofList [("x", .text "2"), ("y", .text "2")]) ∧
      final.toCollection.contents ≠
        ((flushB (flushA before.store)).recordOf 5).toCollection.contents ∧
      final.toCollection.contents ≠
        ((flushA (flushB before.store)).recordOf 5).toCollection.contents := by
  intro now before flushA flushB order final
  have shuffled : Shuffle (flushCalls 0 (before.stashes 0) 5 2 now)
      (flushCalls 1 (before.stashes 1) 5 3 now) order := .left (.right (.left (.right .nil)))
  exact ⟨shuffled, by decide +kernel, by decide +kernel, by decide +kernel⟩

/-- The sets that a page with two variables saves. -/
def savedOf (rev : RevId) (x y : String) : SetCollection where
  pageId := 5
  revId := rev
  sets := .ofList [("", { name := "", vars := .ofList [("x", .text x), ("y", .text y)] })]

/-- Once a page is stored, the second of two renders has the change of the first and one more. -/
def changedFurther : List RenderEvent :=
  [.save 0 saveBoth (pageOf "1" "1") Tree.root 5,
    .flush 0 5 1 ⟨2024, 1, 1, 0, 0, 0, 0⟩,
    .save 0 saveBoth (pageOf "2" "1") Tree.root 5,
    .save 1 saveBoth (pageOf "2" "2") Tree.root 5]

/-- The flushes overlap, but the last one leaves nothing of the first that is not its own. -/
theorem changedFurther_serial :
    let now : Timestamp := ⟨2024, 1, 2, 0, 0, 0, 0⟩
    let before := run true changedFurther
    let flushA := afterFlush true (before.stashes 0) 5 2 now
    let flushB := afterFlush true (before.stashes 1) 5 3 now
    let order := [.load 0, .load 1, .save 0 ((before.stashes 0).handedOver 5 2) now,
      .save 1 ((before.stashes 1).handedOver 5 3) now]
    let final := recordAfter 5 before.store order
    final.WellFormed ∧
      final.toCollection.contents =
        ((flushB (flushA before.store)).recordOf 5).toCollection.contents ∧
      SetCollection.LeavesOne (before.store.recordOf 5).toCollection (savedOf 2 "2" "1")
        (savedOf 3 "2" "2") := by
  intro now before flushA flushB order final
  have handedA : (before.stashes 0).handedOver 5 2 = some (savedOf 2 "2" "1") := by
    decide +kernel
  have handedB : (before.stashes 1).handedOver 5 3 = some (savedOf 3 "2" "2") := by
    decide +kernel
  have shuffled : Shuffle (flushCalls 0 (before.stashes 0) 5 2 now)
      (flushCalls 1 (before.stashes 1) 5 3 now) order := .left (.right (.left (.right .nil)))
  have same : final.toCollection.contents =
      ((flushB (flushA before.store)).recordOf 5).toCollection.contents := by decide +kernel
  have ⟨wf, serial⟩ := serializes_iff true changedFurther handedA handedB shuffled
  rcases serial.1 (Or.inl same) with inOrder | inOrder | ⟨-, leavesOne⟩ | ⟨lastA, -⟩
  · simp [order, flushCalls] at inOrder
  · simp [order, flushCalls] at inOrder
  · exact ⟨wf, same, leavesOne⟩
  · cases lastA

end RenderState

end TemplateVars
