import TemplateVars.Proofs.Page.Outcome
import TemplateVars.Proofs.Render.Engine
import TemplateVars.Proofs.Store.Directory

/-!
# Flushes that fail

A flush takes the gathered collection out of the stash before it turns to the
store. When the store in a directory then fails, nothing on the disk is lost,
but a collection that the stash held is: flushing the stash again is flushing a
render that saved nothing, which removes what the page had stored.
-/

namespace TemplateVars.DirectoryStore

open TemplateVars.Action Host

/-- The engine of a host that stores variables in a directory. -/
def engine (s : DirectoryStore) (features : Features) : Engine Host where
  features
  gateway := s.gateway

/-- Flushing a stash gives a result and leaves a host. -/
def Flushes (s : DirectoryStore) (features : Features) (stash : Stash) (page : PageId)
    (rev : RevId) (now : Timestamp) (before after : Host) : Prop :=
  ∃ outcome stash', (s.engine features).flush stash page rev now before =
    (.ok outcome, stash', after)

/-- A store that is there, and a page that holds nothing or a record as saving leaves it. -/
structure Healthy (s : DirectoryStore) (page : PageId) (h : Host) : Prop where
  rootExists : h.disk.pathExists s.root = true
  sound : ∀ stored h', (s.loadRecord page).run.run h = (.ok stored, h') →
    PageRecord.SoundFor page stored

variable {s : DirectoryStore} {features : Features} {stash : Stash} {page : PageId} {rev : RevId}
  {now : Timestamp} {before after : Host}

/-- A flush that succeeds has loaded the page, and has saved its plan unless that is empty. -/
theorem Flushes.saves (flushes : s.Flushes features stash page rev now before after)
    (on : features.data = true) :
    ∃ stored loaded, (s.loadRecord page).run.run before = (.ok stored, loaded) ∧
      let p := Plan.between (stored.map (·.toCollection)) (stash.handedOver page rev)
      (p.isEmpty = true ∧ after = loaded ∨
        p.isEmpty = false ∧ ∃ o, (s.save p now).run.run loaded = (.ok o, after)) := by
  rcases flushes with ⟨outcome, stash', flushed⟩
  rw [Engine.flush_of_enabled on, Prod.mk.injEq, Prod.mk.injEq] at flushed
  rcases flushed with ⟨gave, -, left⟩
  rcases Engine.of_run_persist (Prod.ext gave left) with ⟨old, loaded, ran, rest⟩
  rcases of_run_loadSets ran with ⟨stored, found, rfl⟩
  exact ⟨stored, loaded, found, rest⟩

/-- Flushing depends on what the stash hands over alone. -/
theorem flushes_congr {stash' : Stash} (on : features.data = true)
    (same : stash.handedOver page rev = stash'.handedOver page rev) :
    s.Flushes features stash page rev now before after ↔
      s.Flushes features stash' page rev now before after := by
  unfold Flushes
  simp only [Engine.flush_of_enabled (e := s.engine features) on, same, Prod.mk.injEq,
    exists_and_left, exists_eq_left']

/-- Once a render with a set is flushed, its page has a file. -/
theorem Flushes.pathExists (flushes : s.Flushes features stash page rev now before after)
    (on : features.data = true) {c : SetCollection} (held : stash.get? savedSetsKey = some c)
    (hasSets : c.HasSets) : after.disk.pathExists (s.pagePath page) = true := by
  rcases flushes.saves on with ⟨stored, loaded, ran, rest⟩
  let new : SetCollection := { c with pageId := page, revId := rev }
  have handed : stash.handedOver page rev = some new := by
    rw [Stash.handedOver, held]
    rfl
  rw [handed] at rest
  have new_hasSets : new.HasSets := hasSets
  rcases rest with ⟨nothing, rfl⟩ | ⟨busy, o, saved⟩
  · cases stored with
    | none =>
        rw [Option.map_none, Plan.busy_between_none new_hasSets] at nothing
        cases nothing
    | some r =>
        rcases of_run_loadRecord ran with read | ⟨-, absent⟩
        · exact pathExists_of_recordOn_some read
        · cases absent
  · rcases of_run_save busy saved with ⟨h₁, found, -, -, file⟩
    rw [Plan.pageId_between_some] at file
    rw [file]
    exact Plan.outcome_isSome busy (Plan.writes_between new_hasSets busy) now found

/-- Once a render that saved nothing is flushed at a healthy host, its page has no file. -/
theorem Flushes.not_pathExists (flushes : s.Flushes features stash page rev now before after)
    (on : features.data = true) (held : stash.get? savedSetsKey = none)
    (healthy : s.Healthy page before) : after.disk.pathExists (s.pagePath page) = false := by
  rcases flushes.saves on with ⟨stored, loaded, ran, rest⟩
  have handed : stash.handedOver page rev = none := by
    rw [Stash.handedOver, held]
    rfl
  rw [handed] at rest
  have read : s.recordOn page loaded.disk = .ok stored := by
    rcases of_run_loadRecord ran with read | ⟨missing, -⟩
    · exact read
    · rw [healthy.rootExists] at missing
      cases missing
  have cleared : (Plan.between (stored.map (·.toCollection)) none).outcome now stored = none :=
    Plan.shows_outcome_between (healthy.sound stored loaded ran) (Plan.renderedFor_none page) now
  rcases rest with ⟨nothing, rfl⟩ | ⟨busy, o, saved⟩
  · rw [Plan.outcome_of_isEmpty nothing] at cleared
    rw [cleared] at read
    exact pathExists_of_recordOn_none read
  · cases stored with
    | none => cases busy
    | some r =>
        -- the record is read again under the lock, and is still the one that was planned against
        rcases of_run_save busy saved with ⟨h₁, found, gains, again, file⟩
        rw [Option.map_some, Plan.pageId_between_none, PageRecord.pageId_toCollection,
          pageId_of_recordOn read] at again file
        rw [recordOn_of_gains gains read] at again
        cases again
        rw [file]
        exact congrArg Option.isSome cleared

/--
A failed flush leaves on the disk what was there, and adds nothing to it but
directories and an empty lock file. It leaves the stash as it was only if that
held nothing: otherwise the collection is lost, and flushing again does what
flushing an empty stash does. If the collection had a set, the page then ends up
without a file where flushing the stash as it was leaves one.
-/
theorem stash_lost_of_failed {stash' : Stash} {failedHost : Host} {error : StoreError}
    (failed : (s.engine features).flush stash page rev now before =
      (.error error, stash', failedHost)) :
    Gains "store.lock" before failedHost ∧
      (stash' = stash ↔ stash.get? savedSetsKey = none) ∧
      (∀ later h₁ h₂, s.Flushes features stash' page rev later h₁ h₂ ↔
        s.Flushes features {} page rev later h₁ h₂) ∧
      ∀ c, stash.get? savedSetsKey = some c → c.HasSets →
        ∀ later healthy first again, s.Healthy page healthy →
          s.Flushes features stash page rev later healthy first →
          s.Flushes features stash' page rev later healthy again →
          first.disk.pathExists (s.pagePath page) = true ∧
            again.disk.pathExists (s.pagePath page) = false := by
  have on : features.data = true := by
    by_contra off
    rw [Bool.not_eq_true] at off
    rw [Engine.flush_of_disabled off] at failed
    cases failed
  rw [Engine.flush_of_enabled on, Prod.mk.injEq, Prod.mk.injEq] at failed
  rcases failed with ⟨gave, rfl, left⟩
  refine ⟨?_, Stash.take_eq_self_iff stash savedSetsKey, ?_, ?_⟩
  · exact Engine.failsWithin_persist (s.keeps_loadSets page) (fun p => s.failsWithin_save p now) _
      _ _ _ (Prod.ext gave left)
  · intro later h₁ h₂
    apply flushes_congr on
    rw [Engine.handedOver_of_taken]
    rfl
  · intro c held hasSets later healthy first again fit flushes flushesAgain
    exact ⟨flushes.pathExists on held hasSets,
      flushesAgain.not_pathExists on (Stash.get?_take ..) fit⟩

/-! ### A store that is locked -/

/-- A store in a directory at the top. -/
def topStore : DirectoryStore := ⟨⟨["", "s"]⟩⟩

/-- A host on which nobody holds the lock of the store. -/
def freeHost : Host where
  disk :=
    { entries := .ofList
        [([], .directory), (["s"], .directory), (["s", "store.lock"], .file 0 .empty)]
      nextFile := 1
      here := [] }
  nextGuard := 1

/-- The same host while somebody holds the lock alone. -/
def lockedHost : Host :=
  { freeHost with
    guards := [{ number := 0, file := 0, path := topStore.lockPath, mode := .exclusive }] }

/-- A collection with one set of one variable. -/
def oneSet : SetCollection where
  pageId := 0
  revId := 0
  sets := .ofList [("a", { name := "a", vars := .ofList [("x", .text "1")] })]

/-- The stash of a render that has saved that set. -/
def fullStash : Stash := ({} : Stash).put savedSetsKey oneSet

/-- A time of writing. -/
def someTime : Timestamp := ⟨2024, 1, 1, 0, 0, 0, 0⟩

/-- The lock held elsewhere makes the flush fail, and the set is lost when flushing again. -/
theorem locked_flush_loses_stash :
    let failed := (topStore.engine {}).flush fullStash 5 1 someTime lockedHost
    let again := (topStore.engine {}).flush failed.2.1 5 1 someTime freeHost
    let first := (topStore.engine {}).flush fullStash 5 1 someTime freeHost
    failed.1 = .error (.lock (.timeout topStore.lockPath "page read")) ∧
      failed.2.1 ≠ fullStash ∧
      again.2.2.disk.pathExists (topStore.pagePath 5) = false ∧
      first.2.2.disk.pathExists (topStore.pagePath 5) = true := by
  decide +kernel

theorem healthy_freeHost : topStore.Healthy 5 freeHost where
  rootExists := by decide +kernel
  sound := by
    intro stored h' loaded r found
    have nothing : ((topStore.loadRecord 5).run.run freeHost).1 = .ok none := by decide +kernel
    rw [loaded] at nothing
    cases nothing
    cases found

theorem stash_lost_at_lockedHost :
    ∃ stash' failedHost first again,
      Gains "store.lock" lockedHost failedHost ∧ stash' ≠ fullStash ∧
      topStore.Flushes {} fullStash 5 1 someTime freeHost first ∧
      topStore.Flushes {} stash' 5 1 someTime freeHost again ∧
      first.disk.pathExists (topStore.pagePath 5) = true ∧
      again.disk.pathExists (topStore.pagePath 5) = false := by
  let failed := (topStore.engine {}).flush fullStash 5 1 someTime lockedHost
  have gave : failed.1 = .error (.lock (.timeout topStore.lockPath "page read")) := by
    decide +kernel
  obtain ⟨gains, same, -, lost⟩ :=
    stash_lost_of_failed (show failed = (.error _, failed.2.1, failed.2.2) from Prod.ext gave rfl)
  have first : topStore.Flushes {} fullStash 5 1 someTime freeHost
      ((topStore.engine {}).flush fullStash 5 1 someTime freeHost).2.2 :=
    ⟨.applied { report := { insertedSets := 1, rowsInserted := 1 } }, _,
      Prod.ext (by decide +kernel) rfl⟩
  have again : topStore.Flushes {} failed.2.1 5 1 someTime freeHost
      ((topStore.engine {}).flush failed.2.1 5 1 someTime freeHost).2.2 :=
    ⟨.unchanged, _, Prod.ext (by decide +kernel) rfl⟩
  have held : fullStash.get? savedSetsKey = some oneSet := Stash.get?_put ..
  have hasSets : oneSet.HasSets := ⟨"a", _, rfl⟩
  refine ⟨failed.2.1, failed.2.2, _, _, gains, ?_, first, again,
    lost oneSet held hasSets someTime freeHost _ _ healthy_freeHost first again⟩
  rw [ne_eq, same, held]
  exact nofun

end TemplateVars.DirectoryStore
