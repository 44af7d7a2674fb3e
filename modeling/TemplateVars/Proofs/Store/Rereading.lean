import TemplateVars.Proofs.Store.Layout

/-!
# What a store reads after it has written

Loading or saving a page in a directory can fail for many reasons, most of them
nothing to do with the store. Once it has succeeded, though, the store stands
and its lock can be shared, so that loading the page succeeds as well, and gives
what was read or saved.
-/

namespace TemplateVars

/-- Nothing has happened to the locks of a host, its directories and its lock files. -/
structure Host.Spares (h h' : Host) : Prop where
  disk : Disk.Spares "store.lock" h.disk h'.disk
  guards_eq : h'.guards = h.guards

instance : IsPreorder Host Host.Spares where
  refl h := ⟨refl_of (Disk.Spares "store.lock") h.disk, rfl⟩
  trans _ _ _ first second :=
    ⟨trans_of (Disk.Spares "store.lock") first.disk second.disk,
      second.guards_eq.trans first.guards_eq⟩

namespace DirectoryStore

open TemplateVars.Action Host

variable {s : DirectoryStore} {page : PageId}

theorem spares_onDisk {ε α : Type} {act : DiskAction α}
    (keeps : Keeps (Disk.Spares "store.lock") act) (describe : DiskFault → ε) :
    Keeps Spares (onDisk describe act) :=
  fun h => ⟨keeps h.disk, rfl⟩

theorem fileName_ne_lock (page : PageId) : fileName page ≠ "store.lock" := by
  intro same
  have last := congrArg (fun name : String => name.toList.getLast?) same
  simp [toList_fileName] at last

theorem leadsTo_pagePath (s : DirectoryStore) (page : PageId) :
    Disk.LeadsTo (s.pagePath page) (fileName page) := by
  have ⟨proper, noDot, noDots⟩ := fileName_proper page
  exact Disk.leadsTo_child s.pagesPath proper noDot noDots

theorem spares_readRecord (s : DirectoryStore) (page : PageId) :
    Keeps Spares (s.readRecord page) := by
  intro h
  rw [run_readRecord]
  exact refl_of Spares h

theorem spares_writeRecord (s : DirectoryStore) (r : PageRecord) :
    Keeps Spares (s.writeRecord r) := by
  refine (spares_onDisk (fun d => ?_) _).bind fun _ => spares_onDisk ?_ _
  · exact (Disk.keeps_makeDirectories _ d).spares
  · exact Disk.keeps_replaceFile (s.leadsTo_pagePath _) (fileName_ne_lock _) _

theorem spares_removeRecord (s : DirectoryStore) (page : PageId) :
    Keeps Spares (s.removeRecord page) := by
  refine keeps_get.bind fun h => ?_
  split
  · exact keeps_pure _
  · refine (spares_onDisk ?_ _).bind fun _ => keeps_pure _
    exact Disk.keeps_removeFile (s.leadsTo_pagePath page) (fileName_ne_lock page)

theorem spares_leave (s : DirectoryStore) (page : PageId) (outcome : Option PageRecord) :
    Keeps Spares (s.leave page outcome) := by
  cases outcome with
  | none => exact (s.spares_removeRecord page).bind fun _ => keeps_pure _
  | some r => exact s.spares_writeRecord r

/-! ### Stores that stand -/

variable (s) in
/-- A store stands on a disk, with a file to lock. -/
def Stands (d : Disk) (id : FileId) : Prop :=
  ∃ root lock content, d.locate s.root = .ok root ∧ d.entry? root = some .directory ∧
    d.locate s.lockPath = .ok lock ∧ d.entry? lock = some (.file id content)

variable (s) in
/-- A host on which readers can have the lock of a store. -/
def Readable (h : Host) : Prop := ∃ id, s.Stands h.disk id ∧ h.isFree id .shared = true

theorem Stands.spares {d d' : Disk} {id : FileId} (stands : s.Stands d id)
    (spares : Disk.Spares "store.lock" d d') : s.Stands d' id := by
  rcases stands with ⟨root, lock, content, located, directory, locatedLock, file⟩
  exact ⟨root, lock, content, spares.locate located, spares.kept root _ directory (Or.inl rfl),
    spares.locate locatedLock,
    spares.kept lock _ file (Or.inr (s.leadsTo_lockPath d lock locatedLock))⟩

theorem not_endsInSlash_lockPath (s : DirectoryStore) : s.lockPath.endsInSlash = false := by
  simp [lockPath, Path.child, Path.endsInSlash]

theorem stands_of_openFile (named : s.root.text ≠ "") {d d' : Disk} {id : FileId}
    (opened : (Disk.openFile s.lockPath).run.run d = (.ok id, d')) : s.Stands d' id := by
  have gains := (Disk.keeps_openFile s.leadsTo_lockPath).of_run opened
  rw [Disk.run_openFile, not_endsInSlash_lockPath, if_neg Bool.false_ne_true] at opened
  split at opened
  · cases opened
  · rename_i lock located
    rcases Disk.exists_locate_of_child named located with ⟨root, locatedRoot, directory⟩
    refine ⟨root, lock, ?_⟩
    split at opened
    · cases opened
    · rename_i content file
      cases opened
      exact ⟨_, locatedRoot, directory, located, file⟩
    · cases opened
      exact ⟨_, gains.locate locatedRoot, gains.kept root _ directory, gains.locate located,
        by rw [Disk.entry?_putFile, if_pos rfl]⟩

theorem isFree_shared {h h' : Host} {id : FileId} {mode : LockMode}
    (free : h.isFree id mode = true) (fewer : ∀ g ∈ h'.guards, g ∈ h.guards) :
    h'.isFree id .shared = true := by
  rw [isFree, List.all_eq_true] at free ⊢
  intro g held
  have together := free g (fewer g held)
  rw [Bool.or_eq_true] at together ⊢
  refine together.imp_right ?_
  cases mode <;> cases g.mode <;> simp [compatible]

theorem of_run_acquire (named : s.root.text ≠ "") {mode : LockMode} {purpose : String} {g : Guard}
    {h h' : Host} (acquired : (acquire s.lockPath mode purpose).run.run h = (.ok g, h')) :
    ∃ id, s.Stands h'.disk id ∧ h.isFree id mode = true ∧ h'.guards = g :: h.guards := by
  rcases run_bind_eq_ok.1 acquired with ⟨_, h₁, made, rest⟩
  rcases run_onDisk_eq_ok.1 made with ⟨d₁, -, rfl⟩
  rcases run_bind_eq_ok.1 rest with ⟨id, h₂, opened, rest⟩
  rcases run_onDisk_eq_ok.1 opened with ⟨d₂, ranOpen, rfl⟩
  rw [run_get_bind] at rest
  split at rest
  · rename_i free
    cases rest
    exact ⟨id, stands_of_openFile named ranOpen, free, rfl⟩
  · cases rest

/-- What is done under the lock leaves the store readable if it spares it. -/
theorem exists_of_run_withLock {α : Type} {act : StoreAction Host α} {a : α} {mode : LockMode}
    {purpose : String} {h h' : Host} (named : s.root.text ≠ "") (keeps : Keeps Spares act)
    (ran : (withLock .lock s.lockPath mode purpose act).run.run h = (.ok a, h')) :
    s.Readable h' ∧ ∃ h₁ h₂, Gains "store.lock" h h₁ ∧ (∃ id, s.Stands h₁.disk id) ∧
      act.run.run h₁ = (.ok a, h₂) ∧ h'.disk = h₂.disk := by
  rw [Host.run_withLock] at ran
  split at ran
  · cases ran
  · rename_i g h₁ acquired
    have gains := (keeps_acquire s.leadsTo_lockPath mode purpose).of_run acquired
    rcases of_run_acquire named acquired with ⟨id, stands, free, guards⟩
    have spares := keeps h₁
    cases done : act.run.run h₁ with
    | mk result h₂ =>
        rw [done] at ran spares
        cases ran
        refine ⟨⟨id, stands.spares spares.disk, isFree_shared free ?_⟩, h₁, h₂, gains, ⟨id, stands⟩,
          done, rfl⟩
        intro other held
        rw [released, List.mem_filter, spares.guards_eq, guards, List.mem_cons] at held
        rcases held with ⟨rfl | there, different⟩
        · simp at different
        · exact there

theorem Readable.run_loadRecord {h : Host} (readable : s.Readable h) (page : PageId) :
    ∃ h', (s.loadRecord page).run.run h = (s.recordOn page h.disk, h') := by
  rcases readable with ⟨id, ⟨root, lock, content, located, directory, locatedLock, file⟩, free⟩
  have there : h.disk.pathExists s.root = true :=
    Disk.pathExists_iff.2 ⟨_, Disk.readEntry_eq_ok.2 ⟨root, located, directory⟩⟩
  have made : (Disk.makeDirectories s.lockPath.parent).run.run h.disk = (.ok (), h.disk) :=
    Disk.run_makeDirectories_parent located directory (by decide)
  have opened : (Disk.openFile s.lockPath).run.run h.disk = (.ok id, h.disk) := by
    rw [Disk.run_openFile, not_endsInSlash_lockPath, if_neg Bool.false_ne_true, locatedLock]
    simp only [file]
  let g : Guard := { number := h.nextGuard, file := id, path := s.lockPath, mode := .shared }
  have acquired : (acquire s.lockPath .shared "page read").run.run h =
      (.ok g, { h with guards := g :: h.guards, nextGuard := h.nextGuard + 1 }) := by
    refine (run_bind_of_ok (run_onDisk_eq_ok.2 ⟨_, made, rfl⟩) _).trans ?_
    refine (run_bind_of_ok (run_onDisk_eq_ok.2 ⟨_, opened, rfl⟩) _).trans ?_
    refine (run_get_bind _ _).trans ?_
    rw [if_pos free]
    rfl
  rw [loadRecord, run_get_bind, if_pos there, Host.run_withLock, acquired]
  simp only [run_readRecord]
  exact ⟨_, rfl⟩

/-- What is loaded is loaded again. -/
theorem rereads_of_loadRecord (named : s.root.text ≠ "") {h h' : Host} {stored : Option PageRecord}
    (loaded : (s.loadRecord page).run.run h = (.ok stored, h')) :
    ∃ h'', (s.loadRecord page).run.run h' = (.ok stored, h'') := by
  have ran := loaded
  rw [loadRecord, run_get_bind] at ran
  split at ran
  · rcases exists_of_run_withLock named (s.spares_readRecord page) ran with
      ⟨readable, h₁, h₂, -, -, read, disk⟩
    rcases of_run_readRecord read with ⟨found, rfl⟩
    rcases readable.run_loadRecord page with ⟨h'', again⟩
    rw [disk, found] at again
    exact ⟨h'', again⟩
  · cases ran
    exact ⟨h, loaded⟩

/-! ### What a page file holds once it is written -/

/-- A record that was read from a page file can be written to it again. -/
theorem storable_of_recordOn {d : Disk} {r : PageRecord}
    (found : s.recordOn page d = .ok (some r)) : r.Storable := by
  rcases recordOn_eq_some.1 found with ⟨text, -, parsed⟩
  rw [recordOfText] at parsed
  split at parsed
  · cases parsed
  · rename_i read
    split at parsed
    · cases parsed
      rcases Option.bind_eq_some_iff.1 read with ⟨j, -, given⟩
      exact PageRecord.storable_of_ofJson? given
    · cases parsed

theorem readEntry_of_writeRecord {r : PageRecord} {h h' : Host}
    (written : (s.writeRecord r).run.run h = (.ok (), h')) :
    ∃ id, h'.disk.readEntry (s.pagePath r.pageId) = .ok (.file id r.write.toUTF8) := by
  rcases run_bind_eq_ok.1 written with ⟨_, h₁, -, ran⟩
  rcases run_onDisk_eq_ok.1 ran with ⟨d, replaced, rfl⟩
  exact ⟨_, Disk.readEntry_of_replaceFile replaced⟩

theorem recordOn_of_writeRecord {r : PageRecord} (storable : r.Storable) {h h' : Host}
    (written : (s.writeRecord r).run.run h = (.ok (), h')) :
    s.recordOn r.pageId h'.disk = .ok (some r) := by
  rcases readEntry_of_writeRecord written with ⟨id, entry⟩
  refine recordOn_eq_some.2 ⟨r.write, Disk.readText_eq_ok.2 ⟨_, _, entry,
    fromUTF8?_toUTF8 r.write⟩, ?_⟩
  simp [recordOfText, PageRecord.read?_write storable]

theorem readEntry_of_removeRecord {was : Bool} {h h' : Host}
    (removed : (s.removeRecord page).run.run h = (.ok was, h')) :
    h'.disk.readEntry (s.pagePath page) = .error .notFound := by
  rw [removeRecord, run_get_bind] at removed
  split at removed
  · rename_i missing
    cases removed
    exact missing
  · rcases run_bind_eq_ok.1 removed with ⟨_, h₁, ran, done⟩
    rcases run_onDisk_eq_ok.1 ran with ⟨d, erased, rfl⟩
    cases done
    exact Disk.readEntry_of_removeFile erased

theorem recordOn_of_removeRecord {was : Bool} {h h' : Host}
    (removed : (s.removeRecord page).run.run h = (.ok was, h')) :
    s.recordOn page h'.disk = .ok none := by
  rw [recordOn_eq_none, Disk.readText, readEntry_of_removeRecord removed]
  rfl

theorem recordOn_of_leave {outcome : Option PageRecord}
    (own : ∀ r, outcome = some r → r.pageId = page)
    (storable : ∀ r, outcome = some r → r.Storable) {h h' : Host}
    (left : (s.leave page outcome).run.run h = (.ok (), h')) :
    s.recordOn page h'.disk = .ok outcome := by
  cases outcome with
  | none =>
      rcases run_bind_eq_ok.1 left with ⟨_, h₁, removed, done⟩
      cases done
      exact recordOn_of_removeRecord removed
  | some r =>
      rw [← own r rfl]
      exact recordOn_of_writeRecord (storable r rfl) left

/-- What a plan leaves is loaded after it was saved, if it was applied to what was stored. -/
theorem rereads_of_save (named : s.root.text ≠ "") {p : Plan} (busy : p.isEmpty = false)
    {now : Timestamp} {h h' : Host} {o : SaveOutcome} {stored : Option PageRecord}
    (found : ∀ d other, Disk.Gains "store.lock" h.disk d →
      s.recordOn p.pageId d = .ok other → other = stored)
    (storable : ∀ r, p.outcome now stored = some r → r.Storable)
    (saved : (s.save p now).run.run h = (.ok o, h')) :
    ∃ h'', (s.loadRecord p.pageId).run.run h' = (.ok (p.outcome now stored), h'') := by
  rw [save_of_busy busy] at saved
  have keeps := (s.spares_readRecord p.pageId).bind fun stored =>
    (s.spares_leave p.pageId (p.outcome now stored)).bind fun _ => keeps_pure (p.saved now stored)
  rcases exists_of_run_withLock named keeps saved with
    ⟨readable, h₁, h₂, gains, -, ran, disk⟩
  rcases run_bind_eq_ok.1 ran with ⟨other, h₃, read, rest⟩
  rcases of_run_readRecord read with ⟨there, rfl⟩
  cases found _ other gains there
  rcases run_bind_eq_ok.1 rest with ⟨_, h₄, left, done⟩
  cases done
  rcases readable.run_loadRecord p.pageId with ⟨h'', again⟩
  rw [disk, recordOn_of_leave (pageId_outcome_of_recordOn there) storable left] at again
  exact ⟨h'', again⟩

variable (s) in
/--
What loading a page gives on a host, for a store with a path, as every valid
configuration names one. If that is nothing, no record is hidden behind
directories that are still to be made.
-/
structure Finds (page : PageId) (stored : Option PageRecord) (h : Host) : Prop where
  named : s.root.text ≠ ""
  loaded : ∃ h', (s.loadRecord page).run.run h = (.ok stored, h')
  hidden : stored = none → ∀ d r, Disk.Gains "store.lock" h.disk d →
    s.recordOn page d ≠ .ok (some r)

/-- Where no file is called like that of the page, no record comes to light. -/
theorem recordOn_ne_some {d d' : Disk}
    (apart : ∀ place e, d.entry? place = some e → place.getLast? = some (fileName page) →
      e = .directory)
    (gains : Disk.Gains "store.lock" d d') (r : PageRecord) :
    s.recordOn page d' ≠ .ok (some r) := by
  intro read
  rcases recordOn_eq_some.1 read with ⟨text, found, -⟩
  rcases Disk.readText_eq_ok.1 found with ⟨id, content, entry, -⟩
  rcases Disk.readEntry_eq_ok.1 entry with ⟨place, located, file⟩
  have last := s.leadsTo_pagePath page d' place located
  cases before : d.entry? place with
  | some e =>
      have kept := gains.kept place e before
      rw [apart place e before last, file] at kept
      cases kept
  | none =>
      rcases gains.gained place _ before file with directory | ⟨lock, -⟩
      · cases directory
      · rw [last, Option.some.injEq] at lock
        exact fileName_ne_lock page lock

theorem finds_of_apart (named : s.root.text ≠ "") {h : Host}
    (missing : h.disk.pathExists s.root = false)
    (apart : ∀ place e, h.disk.entry? place = some e → place.getLast? = some (fileName page) →
      e = .directory) : s.Finds page none h where
  named := named
  loaded := by
    refine ⟨h, ?_⟩
    rw [loadRecord, run_get_bind, missing]
    rfl
  hidden _ _ r gains := recordOn_ne_some apart gains r

theorem finds_of_missing (named : s.root.text ≠ "") {h : Host}
    (missing : h.disk.pathExists s.root = false)
    (bare : ∀ place e, h.disk.entry? place = some e → e = .directory) : s.Finds page none h :=
  finds_of_apart named missing fun place e found _ => bare place e found

section Finds

variable {stored other : Option PageRecord} {h h' : Host} (finds : s.Finds page stored h)
  (loaded : (s.loadRecord page).run.run h = (.ok other, h'))

include finds loaded

theorem Finds.eq_of_run : other = stored := by
  rcases finds.loaded with ⟨h'', same⟩
  rw [loaded] at same
  cases same
  rfl

/-- Once a page is loaded, nothing else is read for it while the disk only gains. -/
theorem Finds.eq_of_gains {d : Disk} {later : Option PageRecord}
    (gains : Disk.Gains "store.lock" h'.disk d) (read : s.recordOn page d = .ok later) :
    later = stored := by
  cases finds.eq_of_run loaded
  cases stored with
  | some r =>
      rcases of_run_loadRecord loaded with found | ⟨-, nothing⟩
      · have host : Gains "store.lock" h' { h' with disk := d } := gains
        rw [recordOn_of_gains host found] at read
        cases read
        rfl
      · cases nothing
  | none =>
      cases later with
      | none => rfl
      | some r =>
          have first : Gains "store.lock" h h' := (s.keeps_loadRecord page).of_run loaded
          exact absurd read (finds.hidden rfl d r (trans_of (Disk.Gains "store.lock") first gains))

theorem Finds.storable {r : PageRecord} (some : stored = some r) : r.Storable := by
  cases finds.eq_of_run loaded
  subst some
  rcases of_run_loadRecord loaded with found | ⟨-, nothing⟩
  · exact storable_of_recordOn found
  · cases nothing

end Finds

end DirectoryStore

end TemplateVars
