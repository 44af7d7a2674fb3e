import TemplateVars.Proofs.Disk.Paths
import TemplateVars.Proofs.Page.Json
import TemplateVars.Proofs.Store.Directory

/-!
# The files of a store

Where a store stands on a disk there are a lock file and a directory with one
file for each stored page. The files stand at different places, so that changing
one of them leaves all others what they are. What is read for a page depends on
its own file alone, and a record is read back from the file that it was written
to.
-/

namespace TemplateVars

namespace DirectoryStore

/-- The name of the file of a page. -/
def fileName (page : PageId) : String := toString page ++ ".json"

theorem toList_fileName (page : PageId) :
    (fileName page).toList = Nat.toDigits 10 page ++ ".json".toList := by
  simp [fileName, Nat.toString_eq_repr]

theorem fileName_inj {page other : PageId} : fileName page = fileName other ↔ page = other := by
  constructor
  · intro same
    have digits := congrArg String.toList same
    rw [toList_fileName, toList_fileName, List.append_cancel_right_eq] at digits
    have value := congrArg (Text.valueOf 10) digits
    simpa using value
  · rintro rfl
    rfl

theorem fileName_proper (page : PageId) :
    fileName page ≠ "" ∧ fileName page ≠ "." ∧ fileName page ≠ ".." := by
  have longer {name : String} (few : name.toList.length < 5) : fileName page ≠ name := by
    rintro rfl
    rw [toList_fileName, List.length_append] at few
    have ending : ".json".toList.length = 5 := by decide
    omega
  exact ⟨longer (by decide), longer (by decide), longer (by decide)⟩

theorem utf8ByteSize_fileName_le {page : PageId} (small : page ≤ Text.maxWord64) :
    (fileName page).utf8ByteSize ≤ Disk.maxNameBytes := by
  have bound (cs : List Char) : (String.ofList cs).utf8ByteSize ≤ 4 * cs.length := by
    induction cs with
    | nil => simp
    | cons c cs ih =>
        have width := c.utf8Size_le_four
        rw [String.ofList_cons, String.utf8ByteSize_append, String.utf8ByteSize_singleton,
          List.length_cons]
        omega
  have digits : (Nat.toDigits 10 page).length ≤ 20 := by
    rw [Nat.length_toDigits_le_iff (by decide) (by decide)]
    exact Nat.lt_of_le_of_lt small (by decide)
  have length : (fileName page).toList.length ≤ 25 := by
    rw [toList_fileName, List.length_append]
    exact Nat.add_le_add_right digits 5
  have bytes := bound (fileName page).toList
  rw [String.ofList_toList] at bytes
  exact Nat.le_trans bytes (Nat.le_trans (Nat.mul_le_mul_left 4 length) (by decide))

variable {s : DirectoryStore} {page : PageId} {root : Place}
  {contents : PageId → Option ByteArray} {d : Disk}

variable (s) in
/-- Whether a page can have a file beneath the root of a store. -/
structure Serves (page : PageId) : Prop where
  page_le : page ≤ Text.maxWord64
  short : (s.pagePath page).text.utf8ByteSize < Disk.maxPathBytes

variable (s) in
/-- A disk on which a store stands at a place, and what its page files hold. -/
structure Files (root : Place) (contents : PageId → Option ByteArray) (d : Disk) : Prop where
  located : d.locate s.root = .ok root
  directory : d.entry? root = some .directory
  lock : d.entry? (root ++ ["store.lock"]) ≠ some .directory
  pages : d.entry? (root ++ ["pages"]) = some .directory ∨
    d.entry? (root ++ ["pages"]) = none ∧ ∀ page, contents page = none
  missing : ∀ page, contents page = none → d.entry? (root ++ ["pages", fileName page]) = none
  stored : ∀ page content, contents page = some content →
    ∃ id, d.entry? (root ++ ["pages", fileName page]) = some (.file id content)

/-! ### Paths of the store -/

theorem Files.named (files : Files s root contents d) : s.root.text ≠ "" :=
  (Disk.locate_eq_ok.1 files.located).1

theorem utf8ByteSize_pagePath (s : DirectoryStore) (page : PageId) :
    s.pagesPath.text ≠ "" ∧ (s.root.text ≠ "" →
      s.pagesPath.text.utf8ByteSize ≤ (s.pagePath page).text.utf8ByteSize ∧
      s.lockPath.text.utf8ByteSize ≤ (s.pagePath page).text.utf8ByteSize) := by
  have proper : s.pagesPath.text ≠ "" := by
    intro nothing
    rcases Path.text_eq_empty.1 nothing with empty | empty
    · simp at empty
    · have last := congrArg List.getLast? empty
      simp at last
  refine ⟨proper, fun named => ⟨Path.utf8ByteSize_text_le_child proper _, ?_⟩⟩
  have last : s.pagesPath.parts.getLast? ≠ some "" := by
    simp [pagesPath, Path.child]
  rw [pagePath, Path.text_child proper, if_neg last, pagesPath, lockPath, Path.text_child named,
    Path.text_child named]
  simp only [String.utf8ByteSize_append]
  have lock : "store.lock".utf8ByteSize = 10 := by decide
  have pages : "pages".utf8ByteSize = 5 := by decide
  have slash : "/".utf8ByteSize = 1 := by decide
  have ending : ".json".utf8ByteSize = 5 := by decide
  omega

theorem fitsBeneath_fileName (small : page ≤ Text.maxWord64)
    (short : (s.pagePath page).text.utf8ByteSize < Disk.maxPathBytes) :
    Disk.FitsBeneath s.pagesPath (fileName page) := by
  refine ⟨fileName_proper page, ?_, utf8ByteSize_fileName_le small, short⟩
  rw [toList_fileName, List.mem_append, not_or]
  refine ⟨fun listed => ?_, by decide⟩
  have digit := Nat.isDigit_of_mem_toDigits (by decide) (by decide) listed
  cases digit

theorem Serves.fits (serves : s.Serves page) (named : s.root.text ≠ "") :
    Disk.FitsBeneath s.root "store.lock" ∧ Disk.FitsBeneath s.root "pages" ∧
      Disk.FitsBeneath s.pagesPath (fileName page) := by
  have ⟨pages, lock⟩ := (utf8ByteSize_pagePath s page).2 named
  have short := serves.short
  exact ⟨⟨by decide, by decide, by decide, Nat.lt_of_le_of_lt lock short⟩,
    ⟨by decide, by decide, by decide, Nat.lt_of_le_of_lt pages short⟩,
    fitsBeneath_fileName serves.page_le short⟩

theorem Files.locate_pagesPath (files : Files s root contents d) (serves : s.Serves page) :
    d.locate s.pagesPath = .ok (root ++ ["pages"]) :=
  Disk.locate_child_of_directory files.located files.directory (serves.fits files.named).2.1

theorem Files.locate_pagePath (files : Files s root contents d) (serves : s.Serves page)
    (there : d.entry? (root ++ ["pages"]) = some .directory) :
    d.locate (s.pagePath page) = .ok (root ++ ["pages", fileName page]) := by
  have located := Disk.locate_child_of_directory (files.locate_pagesPath serves) there
    (serves.fits files.named).2.2
  rwa [List.append_assoc] at located

theorem Files.pages_of_some (files : Files s root contents d) {content : ByteArray}
    (stored : contents page = some content) : d.entry? (root ++ ["pages"]) = some .directory := by
  rcases files.pages with there | ⟨-, nothing⟩
  · exact there
  · rw [nothing] at stored
    cases stored

theorem Files.page_ne_directory (files : Files s root contents d) (page : PageId) :
    d.entry? (root ++ ["pages", fileName page]) ≠ some .directory := by
  cases stored : contents page with
  | none => simp [files.missing page stored]
  | some content =>
      rcases files.stored page content stored with ⟨id, found⟩
      simp [found]

/-! ### Reading -/

theorem Files.readEntry_of_none (files : Files s root contents d) (serves : s.Serves page)
    (nothing : contents page = none) : d.readEntry (s.pagePath page) = .error .notFound := by
  rcases files.pages with there | ⟨gone, -⟩
  · have located := files.locate_pagePath serves there
    simp [Disk.readEntry, bind, Except.bind, located, files.missing page nothing]
  · have located : d.locate (s.pagePath page) = .error .notFound :=
      Disk.locate_child_of_missing (files.locate_pagesPath serves) gone
        (serves.fits files.named).2.2
    simp [Disk.readEntry, bind, Except.bind, located]

theorem Files.readEntry_of_some (files : Files s root contents d) (serves : s.Serves page)
    {content : ByteArray} (stored : contents page = some content) :
    ∃ id, d.readEntry (s.pagePath page) = .ok (.file id content) := by
  rcases files.stored page content stored with ⟨id, found⟩
  exact ⟨id, Disk.readEntry_eq_ok.2
    ⟨_, files.locate_pagePath serves (files.pages_of_some stored), found⟩⟩

/-- What a page file holds, if there is one, is read as a record of the page, if there is one. -/
inductive Reads (page : PageId) : Option ByteArray → Option PageRecord → Prop
  | nothing : Reads page none none
  | record {content : ByteArray} {text : String} {r : PageRecord}
      (decoded : String.fromUTF8? content = some text) (read : PageRecord.read? text = some r)
      (own : r.pageId = page) : Reads page (some content) (some r)

theorem reads_write {r : PageRecord} (storable : r.Storable) :
    Reads r.pageId (some r.write.toUTF8) (some r) :=
  .record (fromUTF8?_toUTF8 r.write) (PageRecord.read?_write storable) rfl

theorem Reads.pageId_eq {content : Option ByteArray} {r : PageRecord}
    (reads : Reads page content (some r)) : r.pageId = page := by
  cases reads with
  | record _ _ own => exact own

theorem Reads.isSome_eq {content : Option ByteArray} {stored : Option PageRecord}
    (reads : Reads page content stored) : content.isSome = stored.isSome := by
  cases reads <;> rfl

theorem Files.recordOn_eq (files : Files s root contents d) (serves : s.Serves page)
    {stored : Option PageRecord} (reads : Reads page (contents page) stored) :
    s.recordOn page d = .ok stored := by
  cases held : contents page with
  | none =>
      rw [held] at reads
      cases reads
      rw [recordOn_eq_none, Disk.readText, files.readEntry_of_none serves held]
      rfl
  | some content =>
      rw [held] at reads
      cases reads with
      | @record _ text r decoded read own =>
          rcases files.readEntry_of_some serves held with ⟨id, found⟩
          refine recordOn_eq_some.2 ⟨text, Disk.readText_eq_ok.2 ⟨id, _, found, decoded⟩, ?_⟩
          simp [recordOfText, read, own]

/-! ### Changing one place -/

section Changes

variable {d' : Disk} {place : Place} (files : Files s root contents d) (here : d'.here = d.here)
  (others : ∀ other, other ≠ place → d'.entry? other = d.entry? other)

include files here others

theorem Files.root_of_change (free : d.entry? place ≠ some .directory) :
    d'.locate s.root = .ok root ∧ d'.entry? root = some .directory := by
  have kept (q : Place) (found : d.entry? q = some .directory) : d'.entry? q = some .directory := by
    rw [others q, found]
    rintro rfl
    exact free found
  exact ⟨Disk.locate_of_directories here kept files.located, kept root files.directory⟩

/-- The lock file is no page file. -/
theorem Files.of_lock (lock : place = root ++ ["store.lock"])
    (file : d'.entry? place ≠ some .directory) : Files s root contents d' := by
  subst lock
  have ⟨located, directory⟩ := files.root_of_change here others files.lock
  refine ⟨located, directory, file, ?_, ?_, ?_⟩
  · rw [others _ (by simp)]
    exact files.pages
  · intro page nothing
    rw [others _ (by simp)]
    exact files.missing page nothing
  · intro page content stored
    rw [others _ (by simp)]
    exact files.stored page content stored

/-- The directory of the page files can be there before there are any. -/
theorem Files.of_pages (pages : place = root ++ ["pages"])
    (missing : d.entry? place = none) (made : d'.entry? place = some .directory) :
    Files s root contents d' := by
  subst pages
  have ⟨located, directory⟩ := files.root_of_change here others (by simp [missing])
  refine ⟨located, directory, ?_, Or.inl made, ?_, ?_⟩
  · rw [others _ (by simp)]
    exact files.lock
  · intro page nothing
    rw [others _ (by simp)]
    exact files.missing page nothing
  · intro page content stored
    rw [others _ (by simp)]
    exact files.stored page content stored

/-- A page file is that of one page. -/
theorem Files.of_page (own : place = root ++ ["pages", fileName page])
    (there : d.entry? (root ++ ["pages"]) = some .directory) {content : Option ByteArray}
    (none : content = none → d'.entry? place = none)
    (some : ∀ bytes, content = some bytes → ∃ id, d'.entry? place = some (.file id bytes)) :
    Files s root (Function.update contents page content) d' := by
  subst own
  have ⟨located, directory⟩ := files.root_of_change here others (files.page_ne_directory page)
  refine ⟨located, directory, ?_, Or.inl ?_, ?_, ?_⟩
  · rw [others _ (by simp)]
    exact files.lock
  · rw [others _ (by simp)]
    exact there
  · intro other nothing
    rw [Function.update_apply] at nothing
    split at nothing
    · rename_i same
      rw [same]
      exact none nothing
    · rename_i different
      rw [others _ (by simpa [fileName_inj] using different)]
      exact files.missing other nothing
  · intro other bytes found
    rw [Function.update_apply] at found
    split at found
    · rename_i same
      rw [same]
      exact some bytes found
    · rename_i different
      rw [others _ (by simpa [fileName_inj] using different)]
      exact files.stored other bytes found

end Changes

end DirectoryStore

end TemplateVars
