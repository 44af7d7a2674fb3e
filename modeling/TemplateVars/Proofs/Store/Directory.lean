import TemplateVars.Proofs.Lock
import TemplateVars.Proofs.Page.Outcome
import TemplateVars.Store.Directory

/-!
# The store in a directory

Reading the record of a page depends on the disk alone and changes nothing.
Until a page file is replaced or removed, which is the last thing that saving a
plan does to the disk, the disk only gains directories and the lock file.
-/

namespace TemplateVars

/-- What saving a plan reports, given what its page held before. -/
def Plan.saved (p : Plan) (now : Timestamp) (stored : Option PageRecord) : SaveOutcome :=
  if p.isEmpty then {}
  else
    let applied := p.apply now (stored.getD { pageId := p.pageId })
    { report := applied.report, warnings := applied.warnings }

namespace DirectoryStore

open TemplateVars.Action Host

variable (s : DirectoryStore) (page : PageId)

/-- What reading the record of a page gives on a disk. -/
def recordOn (d : Disk) : Except StoreError (Option PageRecord) :=
  match d.readText (s.pagePath page) with
  | .error .notFound => .ok none
  | .error fault => .error (.read page (s.pagePath page) fault)
  | .ok text => (recordOfText (s.pagePath page) page text).map some

theorem run_readRecord (h : Host) :
    (s.readRecord page).run.run h = (s.recordOn page h.disk, h) := by
  refine (run_get_bind ..).trans ?_
  unfold recordOn
  cases h.disk.readText (s.pagePath page) with
  | error fault => cases fault <;> rfl
  | ok text =>
      refine (run_bind ..).trans ?_
      rw [run_lift]
      simp only
      cases recordOfText (s.pagePath page) page text <;> rfl

variable {s page}

theorem of_run_readRecord {h h' : Host} {stored : Option PageRecord}
    (read : (s.readRecord page).run.run h = (.ok stored, h')) :
    s.recordOn page h.disk = .ok stored ∧ h' = h := by
  rw [run_readRecord, Prod.mk.injEq] at read
  exact ⟨read.1, read.2.symm⟩

theorem recordOn_eq_some {d : Disk} {r : PageRecord} :
    s.recordOn page d = .ok (some r) ↔
      ∃ text, d.readText (s.pagePath page) = .ok text ∧
        recordOfText (s.pagePath page) page text = .ok r := by
  unfold recordOn
  cases d.readText (s.pagePath page) with
  | error fault => cases fault <;> simp
  | ok text =>
      simp only [Except.ok.injEq, exists_eq_left']
      cases recordOfText (s.pagePath page) page text <;> simp [Except.map]

theorem recordOn_eq_none {d : Disk} :
    s.recordOn page d = .ok none ↔ d.readText (s.pagePath page) = .error .notFound := by
  unfold recordOn
  cases d.readText (s.pagePath page) with
  | error fault => cases fault <;> simp
  | ok text =>
      simp only [reduceCtorEq, iff_false]
      cases recordOfText (s.pagePath page) page text <;> simp [Except.map]

theorem pageId_of_recordOn {d : Disk} {r : PageRecord}
    (read : s.recordOn page d = .ok (some r)) : r.pageId = page := by
  rcases recordOn_eq_some.1 read with ⟨text, -, parsed⟩
  unfold recordOfText at parsed
  split at parsed
  · cases parsed
  · split at parsed
    · rename_i own
      cases parsed
      exact own
    · cases parsed

theorem pathExists_of_recordOn_some {d : Disk} {r : PageRecord}
    (read : s.recordOn page d = .ok (some r)) : d.pathExists (s.pagePath page) = true := by
  rcases recordOn_eq_some.1 read with ⟨text, found, -⟩
  rcases Disk.readText_eq_ok.1 found with ⟨id, content, entry, -⟩
  exact Disk.pathExists_iff.2 ⟨_, entry⟩

theorem pathExists_of_recordOn_none {d : Disk} (read : s.recordOn page d = .ok none) :
    d.pathExists (s.pagePath page) = false := by
  rw [Bool.eq_false_iff, ne_eq, Disk.pathExists_iff]
  rintro ⟨e, entry⟩
  have missing := recordOn_eq_none.1 read
  rw [Disk.readText, entry] at missing
  cases e with
  | directory => cases missing
  | file id content =>
      dsimp only [bind, Except.bind] at missing
      cases decoded : String.fromUTF8? content <;> simp [decoded] at missing

theorem recordOn_of_gains {name : String} {h h' : Host} (gains : Gains name h h')
    {r : PageRecord} (read : s.recordOn page h.disk = .ok (some r)) :
    s.recordOn page h'.disk = .ok (some r) := by
  rcases recordOn_eq_some.1 read with ⟨text, found, parsed⟩
  exact recordOn_eq_some.2 ⟨text, Disk.Gains.readText gains found, parsed⟩

variable (s page)

theorem leadsTo_lockPath : Disk.LeadsTo s.lockPath "store.lock" :=
  Disk.leadsTo_child s.root (by decide) (by decide) (by decide)

theorem keeps_readRecord : Keeps (Gains "store.lock") (s.readRecord page) := by
  intro h
  rw [run_readRecord]
  exact refl_of (Gains "store.lock") h

theorem keeps_loadRecord : Keeps (Gains "store.lock") (s.loadRecord page) := by
  refine keeps_get.bind fun h => ?_
  split
  · exact keeps_withLock s.leadsTo_lockPath (s.keeps_readRecord page)
  · exact keeps_pure _

theorem keeps_loadSets : Keeps (Gains "store.lock") (s.gateway.loadSets page) :=
  (s.keeps_loadRecord page).bind fun _ => keeps_pure _

theorem failsWithin_removeRecord : FailsWithin (Gains "store.lock") (s.removeRecord page) := by
  refine keeps_get.bind_failsWithin fun h => ?_
  split
  · exact (keeps_pure _).failsWithin
  · exact (failsWithin_onDisk (Disk.failsWithin_removeFile _) _).bind_pure fun _ => true

theorem failsWithin_writeRecord (r : PageRecord) :
    FailsWithin (Gains "store.lock") (s.writeRecord r) :=
  (keeps_onDisk (Disk.keeps_makeDirectories _) _).bind_failsWithin fun _ =>
    failsWithin_onDisk (Disk.failsWithin_replaceFile _ _) _

variable {s page}

/-- What is loaded is what the page file holds, or nothing if there is no store. -/
theorem of_run_loadRecord {h h' : Host} {stored : Option PageRecord}
    (loaded : (s.loadRecord page).run.run h = (.ok stored, h')) :
    s.recordOn page h'.disk = .ok stored ∨
      h.disk.pathExists s.root = false ∧ stored = none := by
  rw [loadRecord, run_get_bind] at loaded
  split at loaded
  · left
    rcases of_run_withLock s.leadsTo_lockPath loaded with ⟨g, h₁, h₂, -, ran, rfl⟩
    rcases of_run_readRecord ran with ⟨found, rfl⟩
    exact found
  · rename_i missing
    cases loaded
    exact Or.inr ⟨by simpa using missing, rfl⟩

theorem of_run_loadSets {h h' : Host} {old : Option SetCollection}
    (loaded : (s.gateway.loadSets page).run.run h = (.ok old, h')) :
    ∃ stored, (s.loadRecord page).run.run h = (.ok stored, h') ∧
      old = stored.map (·.toCollection) := by
  rcases run_bind_eq_ok.1 loaded with ⟨stored, h₁, ran, done⟩
  cases done
  exact ⟨stored, ran, rfl⟩

theorem pathExists_of_removeRecord {h h' : Host} {was : Bool}
    (removed : (s.removeRecord page).run.run h = (.ok was, h')) :
    h'.disk.pathExists (s.pagePath page) = false := by
  rw [removeRecord, run_get_bind] at removed
  split at removed
  · rename_i missing
    cases removed
    simp [Disk.pathExists, missing]
  · rcases run_bind_eq_ok.1 removed with ⟨_, h₁, ran, done⟩
    rcases run_onDisk_eq_ok.1 ran with ⟨d, erased, rfl⟩
    cases done
    exact Disk.pathExists_of_removeFile erased

theorem pathExists_of_writeRecord {r : PageRecord} {h h' : Host}
    (written : (s.writeRecord r).run.run h = (.ok (), h')) :
    h'.disk.pathExists (s.pagePath r.pageId) = true := by
  rcases run_bind_eq_ok.1 written with ⟨_, h₁, -, ran⟩
  rcases run_onDisk_eq_ok.1 ran with ⟨d, replaced, rfl⟩
  exact Disk.pathExists_of_replaceFile replaced

/-! ### Saving -/

variable (s page) in
/-- Leave on the disk what a page is to hold. -/
def leave : Option PageRecord → StoreAction Host Unit
  | none => s.removeRecord page >>= fun _ => pure ()
  | some r => s.writeRecord r

/-- A plan that is not empty is saved under the lock, where its outcome takes the stored place. -/
theorem save_of_busy {p : Plan} (busy : p.isEmpty = false) (now : Timestamp) :
    s.save p now = withLock .lock s.lockPath .exclusive "apply plan" (do
      let stored ← s.readRecord p.pageId
      s.leave p.pageId (p.outcome now stored)
      return p.saved now stored) := by
  rw [save, if_neg (by simp [busy])]
  congr 1
  refine congrArg (s.readRecord p.pageId >>= ·) (funext fun stored => ?_)
  have reported : p.saved now stored =
      { report := (p.apply now (stored.getD { pageId := p.pageId })).report
        warnings := (p.apply now (stored.getD { pageId := p.pageId })).warnings } := by
    rw [Plan.saved, if_neg (by simp [busy])]
  rw [Plan.outcome_of_busy busy now rfl, reported]
  dsimp only
  cases empty : (p.apply now (stored.getD { pageId := p.pageId })).record.sets.isEmpty with
  | true =>
      rw [if_pos rfl, if_pos rfl]
      rfl
  | false =>
      rw [if_neg Bool.false_ne_true, if_neg Bool.false_ne_true]
      rfl

variable (s page) in
theorem failsWithin_leave (outcome : Option PageRecord) :
    FailsWithin (Gains "store.lock") (s.leave page outcome) := by
  cases outcome with
  | none => exact (s.failsWithin_removeRecord page).bind_pure _
  | some r => exact s.failsWithin_writeRecord r

theorem pathExists_of_leave {outcome : Option PageRecord}
    (own : ∀ r, outcome = some r → r.pageId = page) {h h' : Host}
    (left : (s.leave page outcome).run.run h = (.ok (), h')) :
    h'.disk.pathExists (s.pagePath page) = outcome.isSome := by
  cases outcome with
  | none =>
      rcases run_bind_eq_ok.1 left with ⟨_, h₁, removed, done⟩
      cases done
      exact pathExists_of_removeRecord removed
  | some r =>
      rw [← own r rfl]
      exact pathExists_of_writeRecord left

variable (s) in
theorem failsWithin_save (p : Plan) (now : Timestamp) :
    FailsWithin (Gains "store.lock") (s.save p now) := by
  cases busy : p.isEmpty with
  | true =>
      rw [save, if_pos busy]
      exact (keeps_pure _).failsWithin
  | false =>
      rw [save_of_busy busy]
      refine failsWithin_withLock s.leadsTo_lockPath
        ((s.keeps_readRecord p.pageId).bind_failsWithin fun stored => ?_)
      exact (s.failsWithin_leave p.pageId _).bind_pure _

/-- Saving a plan reads its page and leaves there what becomes of it. -/
theorem exists_leave_of_save {p : Plan} (busy : p.isEmpty = false) {now : Timestamp} {h h' : Host}
    {o : SaveOutcome} (saved : (s.save p now).run.run h = (.ok o, h')) :
    ∃ h₁ h₂ stored, Gains "store.lock" h h₁ ∧ s.recordOn p.pageId h₁.disk = .ok stored ∧
      (s.leave p.pageId (p.outcome now stored)).run.run h₁ = (.ok (), h₂) ∧
      h'.disk = h₂.disk := by
  rw [save_of_busy busy] at saved
  rcases of_run_withLock s.leadsTo_lockPath saved with ⟨g, h₁, h₂, gains, ran, rfl⟩
  rcases run_bind_eq_ok.1 ran with ⟨stored, h₃, read, rest⟩
  rcases of_run_readRecord read with ⟨found, rfl⟩
  rcases run_bind_eq_ok.1 rest with ⟨_, h₄, left, done⟩
  cases done
  exact ⟨_, _, stored, gains, found, left, rfl⟩

theorem pageId_outcome_of_recordOn {p : Plan} {now : Timestamp} {d : Disk}
    {stored : Option PageRecord} (found : s.recordOn p.pageId d = .ok stored) (r : PageRecord)
    (outcome : p.outcome now stored = some r) : r.pageId = p.pageId := by
  refine Plan.pageId_outcome (fun r before => ?_) outcome
  cases before
  exact pageId_of_recordOn found

/-- Saving a plan leaves a page file exactly if the outcome for the record found is a record. -/
theorem of_run_save {p : Plan} {now : Timestamp} {h h' : Host} {o : SaveOutcome}
    (busy : p.isEmpty = false) (saved : (s.save p now).run.run h = (.ok o, h')) :
    ∃ h₁ stored, Gains "store.lock" h h₁ ∧ s.recordOn p.pageId h₁.disk = .ok stored ∧
      h'.disk.pathExists (s.pagePath p.pageId) = (p.outcome now stored).isSome := by
  rcases exists_leave_of_save busy saved with ⟨h₁, h₂, stored, gains, found, left, disk⟩
  refine ⟨h₁, stored, gains, found, ?_⟩
  rw [disk]
  exact pathExists_of_leave (pageId_outcome_of_recordOn found) left

end DirectoryStore

end TemplateVars
