import TemplateVars.Proofs.Store.Failures

/-!
# Files that are no records

A save replaces or removes at most a file that it has read a record from, or puts
one where there was none. A file that holds something else is left alone,
whichever path leads to it, so that whoever reads it gets the same text again.
-/

namespace TemplateVars

namespace Disk

/-- Whatever stands on a disk stands in a directory. -/
def Rooted (d : Disk) : Prop :=
  ∀ place e, d.entry? place = some e → place = [] ∨ d.entry? place.dropLast = some .directory

instance (d : Disk) : Decidable d.Rooted :=
  decidable_of_iff
    (∀ e ∈ d.entries.toList, e.1 = [] ∨ d.entry? e.1.dropLast = some .directory)
    (SortedMap.forall_find?_iff
      (p := fun place _ => place = [] ∨ d.entry? place.dropLast = some .directory)).symm

end Disk

namespace DirectoryStore

open TemplateVars.Action Host

variable {s : DirectoryStore} {page : PageId} {place : Place} {e : Entry} {d d' : Disk}

theorem pagesPath_proper (s : DirectoryStore) : s.pagesPath.text ≠ "" :=
  (s.utf8ByteSize_pagePath 0).1

/--
A page path that leads to a file once directories are made led there before, if
the file stood in a directory and the root of the store stood as well.
-/
theorem locate_pagePath_of_gains (named : s.root.text ≠ "") {id : FileId} (stands : s.Stands d id)
    (gains : Disk.Gains "store.lock" d d') (located : d'.locate (s.pagePath page) = .ok place)
    (inside : d.entry? place.dropLast = some .directory) :
    d.locate (s.pagePath page) = .ok place := by
  rcases stands with ⟨root, -, -, rooted, directory, -⟩
  rcases Disk.exists_locate_of_child s.pagesPath_proper located with ⟨pages, locatedPages, above⟩
  have fitsPages := Disk.fitsBeneath_of_locate named (by decide) locatedPages
  have fits := Disk.fitsBeneath_of_locate s.pagesPath_proper (fileName_proper page) located
  -- the places on the way are named by the root, so they are the same before
  have pagesBefore := Disk.locate_child_of_directory rooted directory fitsPages
  have pagesSame := gains.locate pagesBefore
  cases locatedPages.symm.trans pagesSame
  have placeSame := Disk.locate_child_of_directory locatedPages above fits
  cases located.symm.trans placeSame
  rw [List.dropLast_concat] at inside
  exact Disk.locate_child_of_directory pagesBefore inside fits

/-- Leaving a page with a record or without one changes nothing but where its path leads. -/
theorem entry?_of_leave {outcome : Option PageRecord}
    (own : ∀ r, outcome = some r → r.pageId = page) {h h' : Host}
    (left : (s.leave page outcome).run.run h = (.ok (), h'))
    (away : ∀ d, Disk.Gains "store.lock" h.disk d → d.locate (s.pagePath page) ≠ .ok place)
    (entry : h.disk.entry? place = some e) : h'.disk.entry? place = some e := by
  cases outcome with
  | none =>
      rcases run_bind_eq_ok.1 left with ⟨_, h₁, removed, done⟩
      cases done
      rw [removeRecord, run_get_bind] at removed
      split at removed
      · cases removed
        exact entry
      · rcases run_bind_eq_ok.1 removed with ⟨_, h₂, ran, done⟩
        rcases run_onDisk_eq_ok.1 ran with ⟨d, erased, rfl⟩
        cases done
        have apart := away h.disk (refl_of (Disk.Gains "store.lock") h.disk)
        exact (Disk.entry?_of_removeFile erased apart).trans entry
  | some r =>
      cases own r rfl
      rcases run_bind_eq_ok.1 left with ⟨_, h₁, made, ran⟩
      have gains : Gains "store.lock" h h₁ :=
        (keeps_onDisk (Disk.keeps_makeDirectories _) _).of_run made
      rcases run_onDisk_eq_ok.1 ran with ⟨d, replaced, rfl⟩
      exact (Disk.entry?_of_replaceFile replaced (away h₁.disk gains)).trans
        (gains.kept place e entry)

theorem recordOn_ne_ok {text : String} (read : d.readText (s.pagePath page) = .ok text)
    (alien : PageRecord.read? text = none) (stored : Option PageRecord) :
    s.recordOn page d ≠ .ok stored := by
  rw [recordOn, read]
  simp [recordOfText, alien, Except.map]

/-- A save leaves a file that held no record as it was, also after the page was loaded. -/
theorem readText_of_save (named : s.root.text ≠ "") {p : Plan} (busy : p.isEmpty = false)
    {now : Timestamp} {h h' : Host} {o : SaveOutcome} (rooted : d.Rooted)
    (since : Disk.Gains "store.lock" d h.disk) {file : Path} {text : String}
    (read : d.readText file = .ok text) (alien : PageRecord.read? text = none)
    (saved : (s.save p now).run.run h = (.ok o, h')) : h'.disk.readText file = .ok text := by
  rw [save_of_busy busy] at saved
  have keeps := (s.spares_readRecord p.pageId).bind fun stored =>
    (s.spares_leave p.pageId (p.outcome now stored)).bind fun _ => keeps_pure (p.saved now stored)
  rcases exists_of_run_withLock named keeps saved with
    ⟨-, h₁, h₂, more, ⟨lock, stands⟩, ran, disk⟩
  have gains : Disk.Gains "store.lock" d h₁.disk :=
    trans_of (Disk.Gains "store.lock") since more
  rcases run_bind_eq_ok.1 ran with ⟨stored, h₃, readOwn, rest⟩
  rcases of_run_readRecord readOwn with ⟨found, same⟩
  rw [same] at rest
  rcases run_bind_eq_ok.1 rest with ⟨_, h₄, left, done⟩
  cases done
  rcases Disk.readText_eq_ok.1 read with ⟨id, content, entry, decoded⟩
  rcases Disk.readEntry_eq_ok.1 entry with ⟨place, located, there⟩
  have there₁ := gains.kept place _ there
  have away (d' : Disk) (later : Disk.Gains "store.lock" h₁.disk d') :
      d'.locate (s.pagePath p.pageId) ≠ .ok place := by
    intro own
    have inside : h₁.disk.entry? place.dropLast = some .directory := by
      rcases rooted place _ there with rfl | above
      · have last := s.leadsTo_pagePath p.pageId d' [] own
        cases last
      · exact gains.kept _ _ above
    have before := locate_pagePath_of_gains named stands later own inside
    have readOwn := Disk.readText_eq_ok.2
      ⟨id, content, Disk.readEntry_eq_ok.2 ⟨place, before, there₁⟩, decoded⟩
    exact recordOn_ne_ok readOwn alien stored found
  have kept := entry?_of_leave (pageId_outcome_of_recordOn found) left away there₁
  have spares := (s.spares_leave p.pageId (p.outcome now stored)).of_run left
  rw [disk]
  exact Disk.readText_eq_ok.2 ⟨id, content,
    Disk.readEntry_eq_ok.2 ⟨place, spares.disk.locate (gains.locate located), kept⟩, decoded⟩

end DirectoryStore

end TemplateVars
