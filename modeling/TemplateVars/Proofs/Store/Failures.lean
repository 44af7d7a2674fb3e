import TemplateVars.Proofs.Store.Rereading

/-!
# Page files survive failures

Whatever is on a disk and whoever holds the lock, an operation that fails leaves
the bytes of every page file as they were, and so does one that only reads. An
operation that succeeds changes the file of its own page at most, and once a plan
is saved that file is gone or holds a record of the page with a set.

Only files of the name `store.lock` may come into being on the way, and no page
file has that name. What counts is where files stand, not which paths lead there:
a directory that is made can let a path through to a file that was there before.
-/

namespace TemplateVars

namespace Disk

open TemplateVars.Action

/-- The bytes of the file at a place. -/
def bytes? (d : Disk) (place : Place) : Option ByteArray :=
  match d.entry? place with
  | some (.file _ content) => some content
  | _ => none

/-- No file but a lock file has come, gone or changed. -/
def SameFiles (d d' : Disk) : Prop :=
  ∀ place, place.getLast? ≠ some "store.lock" → d'.bytes? place = d.bytes? place

/-- No file but a lock file and the one that a path leads to has come, gone or changed. -/
def SameFilesBut (p : Path) (d d' : Disk) : Prop :=
  ∀ place, place.getLast? ≠ some "store.lock" → d'.locate p ≠ .ok place →
    d'.bytes? place = d.bytes? place

theorem Gains.sameFiles {d d' : Disk} (gains : Gains "store.lock" d d') : d.SameFiles d' := by
  intro place noLock
  rw [bytes?, bytes?]
  cases before : d.entry? place with
  | some e => rw [gains.kept place e before]
  | none =>
      cases after : d'.entry? place with
      | none => rfl
      | some e =>
          rcases gains.gained place e before after with rfl | ⟨lock, -⟩
          · rfl
          · exact absurd lock noLock

theorem SameFiles.but {d d₁ d' : Disk} {p : Path} (first : d.SameFiles d₁)
    (rest : SameFilesBut p d₁ d') : SameFilesBut p d d' :=
  fun place noLock away => (rest place noLock away).trans (first place noLock)

theorem sameFilesBut_replaceFile {p : Path} {content : ByteArray} {d d' : Disk}
    (ran : (replaceFile p content).run.run d = (.ok (), d')) : SameFilesBut p d d' := by
  rcases of_run_replaceFile ran with ⟨place, located, rfl⟩
  intro other _ away
  rw [bytes?, entry?_putFile, if_neg]
  · rfl
  · rintro rfl
    exact away located

theorem sameFilesBut_removeFile {p : Path} {d d' : Disk}
    (ran : (removeFile p).run.run d = (.ok (), d')) : SameFilesBut p d d' := by
  rcases of_run_removeFile ran with ⟨place, located, rfl⟩
  intro other _ away
  rw [bytes?, entry?_erase, if_neg]
  · rfl
  · rintro rfl
    exact away located

end Disk

namespace DirectoryStore

open TemplateVars.Action Host

variable {s : DirectoryStore} {page : PageId}

theorem sameFilesBut_removeRecord {was : Bool} {h h' : Host}
    (removed : (s.removeRecord page).run.run h = (.ok was, h')) :
    Disk.SameFilesBut (s.pagePath page) h.disk h'.disk := by
  rw [removeRecord, run_get_bind] at removed
  split at removed
  · cases removed
    exact fun _ _ _ => rfl
  · rcases run_bind_eq_ok.1 removed with ⟨_, h₁, ran, done⟩
    rcases run_onDisk_eq_ok.1 ran with ⟨d, erased, rfl⟩
    cases done
    exact Disk.sameFilesBut_removeFile erased

theorem sameFilesBut_writeRecord {r : PageRecord} {h h' : Host}
    (written : (s.writeRecord r).run.run h = (.ok (), h')) :
    Disk.SameFilesBut (s.pagePath r.pageId) h.disk h'.disk := by
  rcases run_bind_eq_ok.1 written with ⟨_, h₁, made, ran⟩
  have gains : Gains "store.lock" h h₁ :=
    (keeps_onDisk (Disk.keeps_makeDirectories _) _).of_run made
  rcases run_onDisk_eq_ok.1 ran with ⟨d, replaced, rfl⟩
  exact gains.sameFiles.but (Disk.sameFilesBut_replaceFile replaced)

theorem sameFilesBut_leave {outcome : Option PageRecord}
    (own : ∀ r, outcome = some r → r.pageId = page) {h h' : Host}
    (left : (s.leave page outcome).run.run h = (.ok (), h')) :
    Disk.SameFilesBut (s.pagePath page) h.disk h'.disk := by
  cases outcome with
  | none =>
      rcases run_bind_eq_ok.1 left with ⟨_, h₁, removed, done⟩
      cases done
      exact sameFilesBut_removeRecord removed
  | some r =>
      rw [← own r rfl]
      exact sameFilesBut_writeRecord left

/-- What a page has on a disk after a plan for it was saved. -/
inductive Left (s : DirectoryStore) (p : Plan) (now : Timestamp) (d : Disk) : Prop
  | nothing (missing : d.readEntry (s.pagePath p.pageId) = .error .notFound)
  /-- A record of the page with a set; if its numbers fit, it is what is read from the file. -/
  | record (r : PageRecord) (id : FileId)
      (written : d.readEntry (s.pagePath p.pageId) = .ok (.file id r.write.toUTF8))
      (own : r.pageId = p.pageId) (hasSets : ∃ i t, r.sets.find? i = some t)
      (read : p.pageId ≤ Text.maxWord64 → p.newRevId ≤ Text.maxWord64 →
        r.nextSetId ≤ Text.maxWord64 → now.isValid = true →
        s.recordOn p.pageId d = .ok (some r))

theorem sameFilesBut_save {p : Plan} {now : Timestamp} {h h' : Host} {o : SaveOutcome}
    (saved : (s.save p now).run.run h = (.ok o, h')) :
    Disk.SameFilesBut (s.pagePath p.pageId) h.disk h'.disk := by
  cases busy : p.isEmpty with
  | true =>
      rw [save, if_pos busy] at saved
      cases saved
      exact fun _ _ _ => rfl
  | false =>
      rcases exists_leave_of_save busy saved with ⟨h₁, h₂, stored, gains, found, left, disk⟩
      rw [disk]
      exact gains.sameFiles.but (sameFilesBut_leave (pageId_outcome_of_recordOn found) left)

theorem left_of_save {p : Plan} (busy : p.isEmpty = false) {now : Timestamp} {h h' : Host}
    {o : SaveOutcome} (saved : (s.save p now).run.run h = (.ok o, h')) :
    s.Left p now h'.disk := by
  rcases exists_leave_of_save busy saved with ⟨h₁, h₂, stored, -, found, left, disk⟩
  rw [disk]
  have own : ∀ r, p.outcome now stored = some r → r.pageId = p.pageId :=
    pageId_outcome_of_recordOn found
  cases outcome : p.outcome now stored with
  | none =>
      rw [outcome] at left
      rcases run_bind_eq_ok.1 left with ⟨_, h₃, removed, done⟩
      cases done
      exact .nothing (readEntry_of_removeRecord removed)
  | some r =>
      rw [outcome] at left
      have page := own r outcome
      rcases readEntry_of_writeRecord left with ⟨id, written⟩
      refine .record r id (page ▸ written) page (Plan.hasSets_outcome busy outcome) ?_
      intro number revision next valid
      rw [← page]
      have storable : r.Storable := by
        refine Plan.storable_outcome ?_ number revision valid outcome next
        rintro r rfl
        exact storable_of_recordOn found
      exact recordOn_of_writeRecord storable left

theorem failsWithin_deleteAll (s : DirectoryStore) (page : PageId) :
    FailsWithin (Gains "store.lock") (s.deleteAll page) := by
  refine keeps_get.bind_failsWithin fun h => ?_
  split
  · exact failsWithin_withLock s.leadsTo_lockPath (s.failsWithin_removeRecord page)
  · exact (keeps_pure _).failsWithin

theorem sameFilesBut_deleteAll {was : Bool} {h h' : Host}
    (deleted : (s.deleteAll page).run.run h = (.ok was, h')) :
    Disk.SameFilesBut (s.pagePath page) h.disk h'.disk := by
  rw [deleteAll, run_get_bind] at deleted
  split at deleted
  · rcases of_run_withLock s.leadsTo_lockPath deleted with ⟨g, h₁, h₂, gains, removed, rfl⟩
    have changed := sameFilesBut_removeRecord removed
    exact gains.sameFiles.but changed
  · cases deleted
    exact fun _ _ _ => rfl

theorem keeps_pages (s : DirectoryStore) : Keeps (Gains "store.lock") s.pages := by
  refine keeps_get.bind fun h => ?_
  split
  · exact keeps_withLock s.leadsTo_lockPath (keeps_get.bind fun _ => keeps_pure _)
  · exact keeps_pure _

theorem keeps_loadFiltered (s : DirectoryStore) (page : PageId) (set : String)
    (names : List String) :
    Keeps (Gains "store.lock") (s.gateway.loadFiltered page set names) :=
  (s.keeps_loadRecord page).bind fun _ => keeps_pure _

/-- No file but a lock file has come, gone or changed on the disk of a host. -/
def SameFiles (h h' : Host) : Prop := h.disk.SameFiles h'.disk

/-- At most the file of one page has come, gone or changed, so those of the others are the same. -/
structure ChangesOnly (s : DirectoryStore) (page : PageId) (d d' : Disk) : Prop where
  files : d.SameFilesBut (s.pagePath page) d'
  others : ∀ other ≠ page, ∀ place, d'.locate (s.pagePath other) = .ok place →
    d'.bytes? place = d.bytes? place

theorem changesOnly_of_sameFilesBut {d d' : Disk}
    (same : d.SameFilesBut (s.pagePath page) d') : s.ChangesOnly page d d' where
  files := same
  others := by
    intro other different place located
    have named := s.leadsTo_pagePath other d' place located
    apply same place
    · rw [named, ne_eq, Option.some.injEq]
      exact fileName_ne_lock other
    · intro own
      have named' := s.leadsTo_pagePath page d' place own
      rw [named, Option.some.injEq] at named'
      exact different (fileName_inj.1 named')

/-- What a store in a directory promises for the page files, whatever the host is like. -/
structure ProtectsFiles (s : DirectoryStore) : Prop where
  loadRecord : ∀ page, Keeps SameFiles (s.loadRecord page)
  loadSets : ∀ page, Keeps SameFiles (s.gateway.loadSets page)
  loadFiltered : ∀ page set names, Keeps SameFiles (s.gateway.loadFiltered page set names)
  pages : Keeps SameFiles s.pages
  savePlan : ∀ p now, FailsWithin SameFiles (s.gateway.savePlan p now)
  deleteAll : ∀ page, FailsWithin SameFiles (s.gateway.deleteAll page)
  saved : ∀ p now h o h', (s.gateway.savePlan p now).run.run h = (.ok o, h') →
    s.ChangesOnly p.pageId h.disk h'.disk ∧ (p.isEmpty = false → s.Left p now h'.disk)
  deleted : ∀ page h was h', (s.gateway.deleteAll page).run.run h = (.ok was, h') →
    s.ChangesOnly page h.disk h'.disk

/-- Failures and reads change no page file, and successful writes only that of their page. -/
theorem protectsFiles (s : DirectoryStore) : s.ProtectsFiles where
  loadRecord page h := (s.keeps_loadRecord page h).sameFiles
  loadSets page h := (s.keeps_loadSets page h).sameFiles
  loadFiltered page set names h := (s.keeps_loadFiltered page set names h).sameFiles
  pages h := (s.keeps_pages h).sameFiles
  savePlan p now h e h' failed := (s.failsWithin_save p now h e h' failed).sameFiles
  deleteAll page h e h' failed := (s.failsWithin_deleteAll page h e h' failed).sameFiles
  saved _ _ _ _ _ saved :=
    ⟨changesOnly_of_sameFilesBut (sameFilesBut_save saved), fun busy => left_of_save busy saved⟩
  deleted _ _ _ _ deleted := changesOnly_of_sameFilesBut (sameFilesBut_deleteAll deleted)

end DirectoryStore

end TemplateVars
