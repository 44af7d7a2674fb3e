import TemplateVars.Proofs.Store.Layout

/-!
# A store that nobody else touches

While nobody but the store touches its files, none of its operations fails, and
each of them does to the page files what it should. A directory that is missing
counts as one without files as long as it can be made.
-/

namespace TemplateVars

namespace DirectoryStore

open TemplateVars.Action Host

variable {s : DirectoryStore} {page : PageId} {root : Place}
  {contents contents' : PageId → Option ByteArray} {d : Disk}

/-! ### Operations under the lock -/

variable (s) in
/-- An action that ends in a result and turns what the page files hold into something else. -/
def Turns {α : Type} (act : StoreAction Host α) (result : α)
    (contents contents' : PageId → Option ByteArray) : Prop :=
  ∀ h root, Files s root contents h.disk →
    ∃ d, act.run.run h = (.ok result, { h with disk := d }) ∧ Files s root contents' d

theorem turns_pure {α : Type} (a : α) : Turns s (pure a) a contents contents :=
  fun h _ files => ⟨h.disk, rfl, files⟩

theorem Turns.bind {α β : Type} {act : StoreAction Host α} {next : α → StoreAction Host β}
    {a : α} {b : β} {contents'' : PageId → Option ByteArray}
    (first : Turns s act a contents contents') (rest : Turns s (next a) b contents' contents'') :
    Turns s (act >>= next) b contents contents'' := by
  intro h root files
  rcases first h root files with ⟨d, ran, middle⟩
  rcases rest { h with disk := d } root middle with ⟨d', ran', after⟩
  exact ⟨d', (run_bind_of_ok ran _).trans ran', after⟩

theorem turns_readRecord (serves : s.Serves page)
    {stored : Option PageRecord} (reads : Reads page (contents page) stored) :
    Turns s (s.readRecord page) stored contents contents := by
  intro h root files
  refine ⟨h.disk, ?_, files⟩
  rw [run_readRecord, files.recordOn_eq serves reads]

theorem turns_makeDirectories (serves : s.Serves page) (describe : DiskFault → StoreError)
    (h : Host) (files : Files s root contents h.disk) :
    ∃ d, (onDisk describe (Disk.makeDirectories s.pagesPath)).run.run h =
      (.ok (), { h with disk := d }) ∧ Files s root contents d ∧
        d.entry? (root ++ ["pages"]) = some .directory := by
  have last : s.pagesPath.parts.getLast? ≠ some "" := by
    simp [pagesPath, Path.child]
  have proper := (utf8ByteSize_pagePath s page).1
  rcases Disk.run_ensureDirectory last (files.locate_pagesPath serves) with ⟨kept, made⟩
  rcases files.pages with there | ⟨missing, -⟩
  · exact ⟨h.disk, run_onDisk_eq_ok.2 ⟨h.disk, Disk.run_makeDirectories (fun _ => kept there)
      fun _ => rfl, rfl⟩, files, there⟩
  · refine ⟨_, run_onDisk_eq_ok.2 ⟨_, Disk.run_makeDirectories (fun _ => made missing)
      fun nothing => absurd nothing proper, rfl⟩, ?_, ?_⟩
    · refine files.of_pages rfl ?_ rfl missing ?_
      · intro other different
        rw [Disk.entry?_put, if_neg different]
      · rw [Disk.entry?_put, if_pos rfl]
    · rw [Disk.entry?_put, if_pos rfl]

theorem turns_writeRecord {r : PageRecord} (serves : s.Serves r.pageId) :
    Turns s (s.writeRecord r) () contents
      (Function.update contents r.pageId (some r.write.toUTF8)) := by
  intro h root files
  rcases turns_makeDirectories serves _ h files with ⟨d, ran, middle, there⟩
  have replaced : (Disk.replaceFile (s.pagePath r.pageId) r.write.toUTF8).run.run d =
      (.ok (), d.putFile (root ++ ["pages", fileName r.pageId]) r.write.toUTF8) := by
    rw [Disk.run_replaceFile, middle.locate_pagePath serves there]
    simp [middle.page_ne_directory r.pageId]
  refine ⟨_, (run_bind_of_ok ran _).trans (run_onDisk_eq_ok.2 ⟨_, replaced, rfl⟩), ?_⟩
  have here : (d.putFile (root ++ ["pages", fileName r.pageId]) r.write.toUTF8).here = d.here := rfl
  refine middle.of_page here ?_ rfl there ?_ ?_
  · intro other different
    rw [Disk.entry?_putFile, if_neg different]
  · intro nothing
    cases nothing
  · intro content own
    rw [← Option.some.inj own]
    exact ⟨d.nextFile, by rw [Disk.entry?_putFile, if_pos rfl]⟩

theorem turns_removeRecord (serves : s.Serves page) :
    Turns s (s.removeRecord page) (contents page).isSome contents
      (Function.update contents page none) := by
  intro h root files
  cases stored : contents page with
  | none =>
      rw [Function.update_eq_self_iff.2 stored.symm]
      refine ⟨h.disk, ?_, files⟩
      refine (run_get_bind _ h).trans ?_
      rw [files.readEntry_of_none serves stored]
      rfl
  | some content =>
      rcases files.readEntry_of_some serves stored with ⟨id, found⟩
      have there := files.pages_of_some stored
      rcases files.stored page content stored with ⟨id', entry⟩
      let d : Disk :=
        { h.disk with entries := h.disk.entries.erase (root ++ ["pages", fileName page]) }
      have removed : (Disk.removeFile (s.pagePath page)).run.run h.disk = (.ok (), d) := by
        rw [Disk.run_removeFile, files.locate_pagePath serves there]
        simp [entry, d]
      have erased (q : Place) : d.entry? q =
          if q = root ++ ["pages", fileName page] then none else h.disk.entry? q :=
        SortedMap.find?_erase ..
      have here : d.here = h.disk.here := rfl
      refine ⟨d, ?_, files.of_page here ?_ rfl there ?_ ?_⟩
      · refine (run_get_bind _ h).trans ?_
        rw [found]
        exact run_bind_of_ok (run_onDisk_eq_ok.2 ⟨d, removed, rfl⟩) _
      · intro other different
        rw [erased, if_neg different]
      · intro _
        rw [erased, if_pos rfl]
      · intro content nothing
        cases nothing

/-! ### The lock -/

theorem turns_leave (serves : s.Serves page) {outcome : Option PageRecord}
    (own : ∀ r, outcome = some r → r.pageId = page) :
    Turns s (s.leave page outcome) () contents
      (Function.update contents page (outcome.map (·.write.toUTF8))) := by
  cases outcome with
  | none => exact (turns_removeRecord serves).bind (turns_pure ())
  | some r =>
      cases own r rfl
      exact turns_writeRecord serves

theorem Files.run_openFile (files : Files s root contents d) (serves : s.Serves page) :
    ∃ id d', (Disk.openFile s.lockPath).run.run d = (.ok id, d') ∧ Files s root contents d' := by
  have located : d.locate s.lockPath = .ok (root ++ ["store.lock"]) :=
    Disk.locate_child_of_directory files.located files.directory (serves.fits files.named).1
  have noSlash : s.lockPath.endsInSlash = false := by
    simp [lockPath, Path.child, Path.endsInSlash]
  rw [Disk.run_openFile, noSlash, located]
  simp only [Bool.false_eq_true, if_false]
  split
  · rename_i directory
    exact absurd directory files.lock
  · rename_i id content found
    exact ⟨id, d, rfl, files⟩
  · rename_i missing
    refine ⟨d.nextFile, _, rfl, ?_⟩
    have here : (d.putFile (root ++ ["store.lock"]) .empty).here = d.here := rfl
    refine files.of_lock here ?_ rfl ?_
    · intro other different
      rw [Disk.entry?_putFile, if_neg different]
    · rw [Disk.entry?_putFile, if_pos rfl]
      intro directory
      cases directory

variable (s) in
/--
A host on which nobody but the store works, and what the page files hold. If
there is no store then making its directory makes an empty one.
-/
structure Holds (contents : PageId → Option ByteArray) (h : Host) : Prop where
  unlocked : h.guards = []
  files : (∃ root, Files s root contents h.disk) ∨
    h.disk.pathExists s.root = false ∧ (∀ page, contents page = none) ∧
      ∃ d root, (Disk.makeDirectories s.lockPath.parent).run.run h.disk = (.ok (), d) ∧
        Files s root contents d

variable {h : Host}

theorem Holds.exists_files (holds : Holds s contents h) :
    ∃ d root, (Disk.makeDirectories s.lockPath.parent).run.run h.disk = (.ok (), d) ∧
      Files s root contents d := by
  rcases holds.files with ⟨root, files⟩ | ⟨-, -, made⟩
  · exact ⟨h.disk, root,
      Disk.run_makeDirectories_parent files.located files.directory (by decide), files⟩
  · exact made

theorem Holds.eq_none (holds : Holds s contents h) (absent : h.disk.pathExists s.root = false) :
    contents page = none := by
  rcases holds.files with ⟨root, files⟩ | ⟨-, nothing, -⟩
  · have there : h.disk.pathExists s.root = true :=
      Disk.pathExists_iff.2 ⟨_, Disk.readEntry_eq_ok.2 ⟨root, files.located, files.directory⟩⟩
    rw [absent] at there
    cases there
  · exact nothing page

theorem Holds.run_acquire (holds : Holds s contents h) (serves : s.Serves page) (mode : LockMode)
    (purpose : String) :
    ∃ g h' root, (acquire s.lockPath mode purpose).run.run h = (.ok g, h') ∧
      h'.guards = [g] ∧ Files s root contents h'.disk := by
  rcases holds.exists_files with ⟨d, root, made, files⟩
  rcases files.run_openFile serves with ⟨id, d', opened, files'⟩
  let g : Guard := { number := h.nextGuard, file := id, path := s.lockPath, mode }
  refine ⟨g, { disk := d', guards := [g], nextGuard := h.nextGuard + 1 }, root, ?_, rfl, files'⟩
  refine (run_bind_of_ok (run_onDisk_eq_ok.2 ⟨d, made, rfl⟩) _).trans ?_
  refine (run_bind_of_ok (run_onDisk_eq_ok.2 ⟨d', opened, rfl⟩) _).trans ?_
  refine (run_get_bind _ _).trans ?_
  rw [if_pos (by simp [isFree, holds.unlocked]), holds.unlocked]
  rfl

/-- What is done under the lock turns the files that the store has. -/
theorem Holds.run_withLock {α : Type} {act : StoreAction Host α} {a : α}
    (holds : Holds s contents h) (serves : s.Serves page)
    (turns : Turns s act a contents contents') (mode : LockMode) (purpose : String) :
    ∃ h', (withLock .lock s.lockPath mode purpose act).run.run h = (.ok a, h') ∧
      Holds s contents' h' := by
  rcases holds.run_acquire serves mode purpose with ⟨g, h₁, root, acquired, alone, files⟩
  rcases turns h₁ root files with ⟨d, ran, after⟩
  refine ⟨released { h₁ with disk := d } g, ?_, ?_, Or.inl ⟨root, after⟩⟩
  · rw [Host.run_withLock, acquired]
    simp only [ran]
  · simp [released, alone]

/-! ### The operations of the store -/

section Operations

variable (holds : Holds s contents h) (serves : s.Serves page)

include holds serves

theorem Holds.run_loadRecord {stored : Option PageRecord}
    (reads : Reads page (contents page) stored) :
    ∃ h', (s.loadRecord page).run.run h = (.ok stored, h') ∧ Holds s contents h' := by
  rw [loadRecord, run_get_bind]
  cases there : h.disk.pathExists s.root with
  | true => exact holds.run_withLock serves (turns_readRecord serves reads) ..
  | false =>
      rw [holds.eq_none there] at reads
      cases reads
      exact ⟨h, rfl, holds⟩

theorem Holds.run_deleteAll :
    ∃ h', (s.deleteAll page).run.run h = (.ok (contents page).isSome, h') ∧
      Holds s (Function.update contents page none) h' := by
  rw [deleteAll, run_get_bind]
  cases there : h.disk.pathExists s.root with
  | true => exact holds.run_withLock serves (turns_removeRecord serves) ..
  | false =>
      have nothing : contents page = none := holds.eq_none there
      rw [Function.update_eq_self_iff.2 nothing.symm, nothing]
      exact ⟨h, rfl, holds⟩

/-- Saving a plan leaves a file that is read as its outcome, if that can be stored. -/
theorem Holds.run_save {p : Plan} (same : p.pageId = page) {stored : Option PageRecord}
    (reads : Reads page (contents page) stored) (now : Timestamp)
    (storable : p.isEmpty = false → ∀ r, p.outcome now stored = some r → r.Storable) :
    ∃ h' content, (s.save p now).run.run h = (.ok (p.saved now stored), h') ∧
      Holds s (Function.update contents page content) h' ∧
        Reads page content (p.outcome now stored) := by
  subst same
  cases busy : p.isEmpty with
  | true =>
      rw [save, if_pos busy, Plan.outcome_of_isEmpty busy, Plan.saved, if_pos busy]
      refine ⟨h, contents p.pageId, rfl, ?_, reads⟩
      rwa [Function.update_eq_self]
  | false =>
      have own (r : PageRecord) (outcome : p.outcome now stored = some r) :
          r.pageId = p.pageId := by
        refine Plan.pageId_outcome (fun r before => ?_) outcome
        cases before
        exact reads.pageId_eq
      rw [save_of_busy busy]
      have turned : Turns s (do
          let stored ← s.readRecord p.pageId
          s.leave p.pageId (p.outcome now stored)
          return p.saved now stored) (p.saved now stored) contents _ :=
        (turns_readRecord serves reads).bind ((turns_leave serves own).bind (turns_pure _))
      rcases holds.run_withLock serves turned .exclusive "apply plan" with ⟨h', ran, holds'⟩
      refine ⟨h', _, ran, holds', ?_⟩
      cases outcome : p.outcome now stored with
      | none => exact .nothing
      | some r =>
          have read := reads_write (storable busy r outcome)
          rwa [own r outcome] at read

end Operations

end DirectoryStore

end TemplateVars
