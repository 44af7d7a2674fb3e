import Mathlib.Data.List.Nodup
import Mathlib.Data.List.Pairwise
import Mathlib.Data.List.Sort
import TemplateVars.Proofs.Store.Bystander

/-!
# The listing of the pages

The listing turns the names in the directory of the page files back into pages.
It reads the file name of every page as that page, but other names as well:
numerals with zeros or a plus sign in front stand for a page whose file is
called differently. So it tells the stored pages exactly if no such name is in
the directory. Taking the lock for it may put the lock file on the disk, which
is not called like a page file.
-/

namespace TemplateVars

namespace Text

/-- A number within the bound is read back from its numeral. -/
theorem readNumber?_toString {limit n : Nat} (small : n ≤ limit) :
    readNumber? limit (toString n) = some n := by
  have digits : (toString n).toList = Nat.toDigits 10 n := by
    rw [Nat.toString_eq_repr, Nat.toList_repr]
  have unsigned : (Nat.toDigits 10 n).head? ≠ some '+' := by
    intro plus
    have digit := List.all_eq_true.1 (all_isDigit_toDigits n) '+' (List.mem_of_head? plus)
    cases digit
  rw [readNumber?, digits, if_neg unsigned,
    if_pos ⟨Nat.toDigits_ne_nil, all_isDigit_toDigits n⟩]
  simp [small]

theorem readNumber?_le {limit n : Nat} {s : String} (read : readNumber? limit s = some n) :
    n ≤ limit := by
  simp only [readNumber?, Option.ite_none_right_eq_some, Option.some.injEq] at read
  rcases read with ⟨-, small, rfl⟩
  exact small

end Text

namespace Disk

variable {d : Disk} {place : Place}

/-- Nothing is different on a disk but files of a name that are new. -/
structure SameBut (name : String) (d d' : Disk) : Prop extends Gains name d d' where
  elsewhere : ∀ place, place.getLast? ≠ some name → d'.entry? place = d.entry? place

theorem SameBut.refl (name : String) (d : Disk) : SameBut name d d where
  toGains := refl_of (Gains name) d
  elsewhere _ _ := rfl

theorem SameBut.pathExists {name : String} {d' : Disk} (same : SameBut name d d') {p : Path}
    (there : d.pathExists p = true) : d'.pathExists p = true := by
  rcases pathExists_iff.1 there with ⟨e, found⟩
  exact pathExists_iff.2 ⟨e, same.readEntry found⟩

/-- Opening a file, which is created if there is none, changes nothing but that file. -/
theorem sameBut_of_openFile {p : Path} {name : String} (leads : LeadsTo p name) {d' : Disk}
    {id : FileId} (opened : (openFile p).run.run d = (.ok id, d')) : SameBut name d d' where
  toGains := (keeps_openFile leads).of_run opened
  elsewhere := by
    intro q other
    rw [run_openFile] at opened
    split at opened
    · split at opened <;> cases opened
    · split at opened
      · cases opened
      · rename_i place located
        split at opened
        · cases opened
        · cases opened
          rfl
        · cases opened
          rw [entry?_putFile, if_neg]
          rintro rfl
          exact other (leads d q located)

/-- A name is had in a directory from the place of that name in it, and from no other. -/
theorem name_eq_some {p : Place} {name : String} :
    (match p.getLast? with
      | some name => if p.dropLast = place then some name else none
      | none => none) = some name ↔ p = place ++ [name] := by
  rcases List.eq_nil_or_concat p with rfl | ⟨init, last, rfl⟩
  · simp
  · rw [List.concat_eq_append]
    simp

theorem mem_names {name : String} :
    name ∈ d.names place ↔ ∃ e, d.entry? (place ++ [name]) = some e := by
  rw [names, List.mem_filterMap]
  constructor
  · rintro ⟨p, listed, named⟩
    cases name_eq_some.1 named
    exact SortedMap.mem_keys_iff.1 listed
  · exact fun there => ⟨_, SortedMap.mem_keys_iff.2 there, name_eq_some.2 rfl⟩

theorem names_nodup (d : Disk) (place : Place) : (d.names place).Nodup :=
  (SortedMap.keys_nodup d.entries).filterMap fun _ _ _ listed other =>
    (name_eq_some.1 listed).trans (name_eq_some.1 other).symm

end Disk

namespace DirectoryStore

open TemplateVars.Action Host

variable {s : DirectoryStore} {page : PageId} {d d' : Disk}

/-! ### Names of page files -/

theorem pageOfName?_fileName (small : page ≤ Text.maxWord64) :
    pageOfName? (fileName page) = some page := by
  have back : (fileName page).toList.reverse.span (· != '.') =
      ("json".toList.reverse, '.' :: (Nat.toDigits 10 page).reverse) := by
    rw [toList_fileName, List.reverse_append]
    rfl
  have numeral : (Nat.toDigits 10 page).reverse.isEmpty = false := by
    simp [Nat.toDigits_ne_nil]
  have ending : Path.extension? (fileName page) = some "json" := by
    simp only [Path.extension?, back, numeral]
    rfl
  have stem : Path.stem (fileName page) = toString page := by
    simp only [Path.stem, back, numeral, Bool.false_eq_true, if_false, List.reverse_reverse]
    rw [Nat.toString_eq_repr, Nat.repr]
  rw [pageOfName?, if_pos ending, stem, Text.readNumber?_toString small]

theorem pageOfName?_le {name : String} (read : pageOfName? name = some page) :
    page ≤ Text.maxWord64 := by
  rw [pageOfName?] at read
  split at read
  · exact Text.readNumber?_le read
  · cases read

variable (s) in
/-- The names in the directory of the page files. -/
def pageNames (d : Disk) : List String :=
  match d.locate s.pagesPath with
  | .error _ => []
  | .ok place => d.names place

theorem mem_pageNames {name : String} :
    name ∈ s.pageNames d ↔
      ∃ place e, d.locate s.pagesPath = .ok place ∧ d.entry? (place ++ [name]) = some e := by
  unfold pageNames
  cases d.locate s.pagesPath <;> simp [Disk.mem_names]

theorem pageNames_nodup (s : DirectoryStore) (d : Disk) : (s.pageNames d).Nodup := by
  unfold pageNames
  split
  · exact List.nodup_nil
  · exact d.names_nodup _

theorem listPages_eq (s : DirectoryStore) (d : Disk) :
    s.listPages d = ((s.pageNames d).filterMap pageOfName?).mergeSort (· ≤ ·) := by
  unfold listPages pageNames
  cases d.locate s.pagesPath with
  | error fault => simp
  | ok place => rfl

theorem mem_listPages :
    page ∈ s.listPages d ↔ ∃ name ∈ s.pageNames d, pageOfName? name = some page := by
  rw [listPages_eq, List.mem_mergeSort, List.mem_filterMap]

theorem pairwise_le_listPages (s : DirectoryStore) (d : Disk) :
    (s.listPages d).Pairwise (· ≤ ·) := by
  rw [listPages_eq]
  exact List.pairwise_mergeSort' (· ≤ ·) _

/-- Of the pages that pass a test, each is listed once if one name alone stands for it. -/
theorem pairwise_filter_listPages_iff (P : PageId → Bool) :
    ((s.listPages d).filter P).Pairwise (· < ·) ↔
      ∀ name ∈ s.pageNames d, ∀ other ∈ s.pageNames d, ∀ page, P page = true →
        pageOfName? name = some page → pageOfName? other = some page → name = other := by
  have once : ((s.listPages d).filter P).Pairwise (· < ·) ↔ ((s.listPages d).filter P).Nodup := by
    constructor
    · exact fun ascending => ascending.imp Nat.ne_of_lt
    · exact fun distinct => (((s.pairwise_le_listPages d).filter P).and distinct).imp fun h =>
        Nat.lt_of_le_of_ne h.1 h.2
  have perm : ((s.listPages d).filter P).Perm
      ((s.pageNames d).filterMap fun name => (pageOfName? name).filter P) := by
    rw [listPages_eq, ← List.filter_filterMap]
    exact (List.mergeSort_perm _ _).filter P
  rw [once, perm.nodup_iff]
  constructor
  · intro distinct name listed other listed' page passes reads reads'
    by_contra different
    have apart := List.pairwise_filterMap.1 distinct
    have symm : Std.Symm fun name other : String => ∀ a, (pageOfName? name).filter P = some a →
        ∀ b, (pageOfName? other).filter P = some b → a ≠ b :=
      ⟨fun _ _ apart a reads b reads' => (apart b reads' a reads).symm⟩
    exact apart.forall listed listed' different page (by simp [reads, passes]) page
      (by simp [reads', passes]) rfl
  · intro injective
    refine List.pairwise_filterMap.2 ((s.pageNames_nodup d).pairwise_of_forall_ne ?_)
    rintro name listed other listed' different a reads _ reads' rfl
    rw [Option.filter_eq_some_iff] at reads reads'
    exact different (injective name listed other listed' a reads.2 reads.1 reads'.1)

/-- A page file is there if the directory has its name, unless its path is too long. -/
theorem pathExists_pagePath_iff (rooted : d.Rooted) (small : page ≤ Text.maxWord64) :
    d.pathExists (s.pagePath page) = true ↔
      fileName page ∈ s.pageNames d ∧
        (s.pagePath page).text.utf8ByteSize < Disk.maxPathBytes := by
  rw [Disk.pathExists_iff, mem_pageNames]
  constructor
  · rintro ⟨e, found⟩
    rcases Disk.readEntry_eq_ok.1 found with ⟨place, located, there⟩
    rcases Disk.exists_locate_of_child s.pagesPath_proper located with ⟨pages, above, directory⟩
    have fits := Disk.fitsBeneath_of_locate s.pagesPath_proper (fileName_proper page) located
    have led := Disk.locate_child_of_directory above directory fits
    cases located.symm.trans led
    exact ⟨⟨pages, e, above, there⟩, fits.fits⟩
  · rintro ⟨⟨pages, e, above, there⟩, short⟩
    have directory : d.entry? pages = some .directory := by
      rcases rooted _ e there with nothing | inside
      · simp at nothing
      · rwa [List.dropLast_concat] at inside
    have led := Disk.locate_child_of_directory above directory (fitsBeneath_fileName small short)
    exact ⟨e, Disk.readEntry_eq_ok.2 ⟨_, led, there⟩⟩

/-! ### Exact listings -/

variable (s) in
/-- A list of pages tells which pages have something at the path of their file. -/
def ListsExactly (d : Disk) (ids : List PageId) : Prop :=
  ids.Pairwise (· < ·) ∧
    ∀ page, page ∈ ids ↔ page ≤ Text.maxWord64 ∧ d.pathExists (s.pagePath page) = true

variable (s) in
/-- A name in the directory of the page files that stands for a page is that of its file. -/
def PlainNames (d : Disk) : Prop :=
  ∀ name ∈ s.pageNames d, ∀ page ∈ pageOfName? name,
    name = fileName page ∧ (s.pagePath page).text.utf8ByteSize < Disk.maxPathBytes

variable (s) in
/-- No other name in the directory of the page files stands for a page that has a file. -/
def OwnNames (d : Disk) : Prop :=
  ∀ name ∈ s.pageNames d, ∀ page ∈ pageOfName? name,
    d.pathExists (s.pagePath page) = true → name = fileName page

instance (s : DirectoryStore) (d : Disk) : Decidable (s.PlainNames d) :=
  inferInstanceAs (Decidable (∀ _ ∈ _, ∀ _ ∈ _, _ ∧ _))

variable (s) in
/-- The listed pages that have a file. -/
def presentPages (d : Disk) : List PageId :=
  (s.listPages d).filter fun page => d.pathExists (s.pagePath page)

/-- The pages with a file are those among the listed ones, which may be there repeatedly. -/
theorem listsExactly_presentPages_iff (rooted : d.Rooted) :
    s.ListsExactly d (s.presentPages d) ↔ s.OwnNames d := by
  have own {page : PageId} (small : page ≤ Text.maxWord64)
      (present : d.pathExists (s.pagePath page) = true) : fileName page ∈ s.pageNames d :=
    ((pathExists_pagePath_iff rooted small).1 present).1
  have listed (page : PageId) : page ∈ s.presentPages d ↔
      page ≤ Text.maxWord64 ∧ d.pathExists (s.pagePath page) = true := by
    rw [presentPages, List.mem_filter, mem_listPages]
    refine and_congr_left fun present => ?_
    constructor
    · rintro ⟨name, -, reads⟩
      exact pageOfName?_le reads
    · intro small
      exact ⟨_, own small present, pageOfName?_fileName small⟩
  rw [ListsExactly, presentPages, pairwise_filter_listPages_iff]
  constructor
  · rintro ⟨injective, -⟩ name named page reads present
    have small := pageOfName?_le reads
    exact injective name named _ (own small present) page present reads (pageOfName?_fileName small)
  · intro names
    refine ⟨fun name named other named' page present reads reads' => ?_, listed⟩
    rw [names name named page reads present, names other named' page reads' present]

/-- All listed pages have a file, and are there once, if and only if the names are plain. -/
theorem listsExactly_listPages_iff (rooted : d.Rooted) :
    s.ListsExactly d (s.listPages d) ↔ s.PlainNames d := by
  have all : (∀ page ∈ s.listPages d, d.pathExists (s.pagePath page) = true) →
      s.presentPages d = s.listPages d := List.filter_eq_self.2
  constructor
  · intro exactly
    have present (page : PageId) (listed : page ∈ s.listPages d) :=
      ((exactly.2 page).1 listed).2
    rw [← all present, listsExactly_presentPages_iff rooted] at exactly
    intro name named page reads
    have there := present page (mem_listPages.2 ⟨name, named, reads⟩)
    exact ⟨exactly name named page reads there,
      ((pathExists_pagePath_iff rooted (pageOfName?_le reads)).1 there).2⟩
  · intro plain
    rw [← all, listsExactly_presentPages_iff rooted]
    · exact fun name named page reads _ => (plain name named page reads).1
    · intro page listed
      rcases mem_listPages.1 listed with ⟨name, named, reads⟩
      rcases plain name named page reads with ⟨rfl, short⟩
      exact (pathExists_pagePath_iff rooted (pageOfName?_le reads)).2 ⟨named, short⟩

/-! ### Reading under the lock -/

/-- Where the directory of the page files is there, taking the lock needs no other directory. -/
theorem run_makeDirectories_lockPath (there : d.pathExists s.pagesPath = true) :
    (Disk.makeDirectories s.lockPath.parent).run.run d = (.ok (), d) := by
  by_cases named : s.root.text = ""
  · have bare : s.lockPath.parent.text = "" := by
      rw [lockPath, Path.parent_child _ (by decide)]
      rcases Path.text_eq_empty.1 named with nothing | nothing <;> rw [nothing] <;> rfl
    rw [Disk.makeDirectories, if_pos bare]
    rfl
  · rcases Disk.pathExists_iff.1 there with ⟨e, found⟩
    rcases Disk.readEntry_eq_ok.1 found with ⟨place, located, -⟩
    rcases Disk.exists_locate_of_child named located with ⟨root, rootLocated, directory⟩
    exact Disk.run_makeDirectories_parent rootLocated directory (by decide)

theorem sameBut_of_acquire {h h' : Host} {mode : LockMode} {purpose : String} {g : Guard}
    (there : h.disk.pathExists s.pagesPath = true)
    (acquired : (acquire s.lockPath mode purpose).run.run h = (.ok g, h')) :
    Disk.SameBut "store.lock" h.disk h'.disk := by
  rcases run_bind_eq_ok.1 acquired with ⟨_, h₁, made, rest⟩
  rcases run_onDisk_eq_ok.1 made with ⟨d₁, ran, rfl⟩
  rw [run_makeDirectories_lockPath there] at ran
  cases ran
  rcases run_bind_eq_ok.1 rest with ⟨id, h₂, opened, rest⟩
  rcases run_onDisk_eq_ok.1 opened with ⟨d₂, ranOpen, rfl⟩
  rw [run_get_bind] at rest
  split at rest
  · cases rest
    exact Disk.sameBut_of_openFile s.leadsTo_lockPath ranOpen
  · cases rest

/-- What only reads under the lock changes nothing but the lock file. -/
theorem of_run_reading {α : Type} (read : Disk → Except StoreError α) {act : StoreAction Host α}
    (reads : ∀ h, act.run.run h = (read h.disk, h)) {h h' : Host} {a : α} {mode : LockMode}
    {purpose : String} (there : h.disk.pathExists s.pagesPath = true)
    (ran : (withLock .lock s.lockPath mode purpose act).run.run h = (.ok a, h')) :
    read h'.disk = .ok a ∧ Disk.SameBut "store.lock" h.disk h'.disk := by
  rw [Host.run_withLock] at ran
  split at ran
  · cases ran
  · rename_i g h₁ acquired
    have same := sameBut_of_acquire there acquired
    rw [reads, Prod.mk.injEq] at ran
    rcases ran with ⟨result, rfl⟩
    exact ⟨result, same⟩

section SameBut

variable (same : Disk.SameBut "store.lock" d d') (there : d.pathExists s.pagesPath = true)

include same there

/-- The directory of the page files is where it was. -/
theorem locate_pagesPath_of_sameBut {place : Place} :
    d'.locate s.pagesPath = .ok place ↔ d.locate s.pagesPath = .ok place := by
  rcases Disk.pathExists_iff.1 there with ⟨e, found⟩
  rcases Disk.readEntry_eq_ok.1 found with ⟨pages, located, -⟩
  rw [same.locate located, located]

/-- A page has a file on both disks or on neither. -/
theorem pathExists_of_sameBut (page : PageId) :
    d'.pathExists (s.pagePath page) = d.pathExists (s.pagePath page) := by
  rw [Bool.eq_iff_iff, Disk.pathExists_iff, Disk.pathExists_iff]
  constructor
  · rintro ⟨e, found⟩
    rcases Disk.readEntry_eq_ok.1 found with ⟨place, located, entry⟩
    have other : place.getLast? ≠ some "store.lock" := by
      rw [s.leadsTo_pagePath page d' place located, ne_eq, Option.some.injEq]
      exact fileName_ne_lock page
    rw [same.elsewhere place other] at entry
    have fits := Disk.fitsBeneath_of_locate s.pagesPath_proper (fileName_proper page) located
    rcases Disk.exists_locate_of_child s.pagesPath_proper located with ⟨pages, above, directory⟩
    rcases Disk.pathExists_iff.1 there with ⟨e', foundPages⟩
    rcases Disk.readEntry_eq_ok.1 foundPages with ⟨pages', before, entryPages⟩
    cases above.symm.trans (same.locate before)
    cases directory.symm.trans (same.kept _ _ entryPages)
    have led := Disk.locate_child_of_directory above directory fits
    cases located.symm.trans led
    exact ⟨e, Disk.readEntry_eq_ok.2
      ⟨_, Disk.locate_child_of_directory before entryPages fits, entry⟩⟩
  · rintro ⟨e, found⟩
    exact ⟨e, same.readEntry found⟩

theorem mem_pageNames_of_sameBut {name : String} (other : name ≠ "store.lock") :
    name ∈ s.pageNames d' ↔ name ∈ s.pageNames d := by
  rw [mem_pageNames, mem_pageNames]
  refine exists_congr fun place => exists_congr fun e => ?_
  rw [locate_pagesPath_of_sameBut same there, same.elsewhere _ (by simpa using other)]

/-- The lock file is not listed, so that the listing is the same without it. -/
theorem listPages_of_sameBut : s.listPages d' = s.listPages d := by
  have without (names : List String) : names.filterMap pageOfName? =
      (names.filter (· ≠ "store.lock")).filterMap pageOfName? := by
    rw [List.filterMap_filter]
    congr 1
    funext name
    by_cases lock : name = "store.lock"
    · rw [lock]
      decide
    · simp [lock]
  have names : ((s.pageNames d').filter (· ≠ "store.lock")).Perm
      ((s.pageNames d).filter (· ≠ "store.lock")) := by
    refine (List.perm_ext_iff_of_nodup ((s.pageNames_nodup d').filter _)
      ((s.pageNames_nodup d).filter _)).2 fun name => ?_
    simp only [List.mem_filter, decide_eq_true_eq]
    exact and_congr_left fun other => mem_pageNames_of_sameBut same there other
  refine List.Perm.eq_of_pairwise' (s.pairwise_le_listPages d') (s.pairwise_le_listPages d) ?_
  rw [listPages_eq, listPages_eq, without (s.pageNames d'), without (s.pageNames d)]
  exact (List.mergeSort_perm _ _).trans
    ((names.filterMap _).trans (List.mergeSort_perm _ _).symm)

end SameBut

theorem listPages_of_missing (rooted : d.Rooted) (missing : d.pathExists s.pagesPath = false) :
    s.listPages d = [] := by
  refine List.eq_nil_iff_forall_not_mem.2 fun page listed => ?_
  rcases mem_listPages.1 listed with ⟨name, named, -⟩
  rcases mem_pageNames.1 named with ⟨place, e, located, there⟩
  rcases rooted _ e there with nothing | above
  · simp at nothing
  · rw [List.dropLast_concat] at above
    have found := Disk.pathExists_iff.2 ⟨_, Disk.readEntry_eq_ok.2 ⟨place, located, above⟩⟩
    rw [missing] at found
    cases found

/-- The stored pages are those listed on the disk, on which nothing but the lock file changes. -/
theorem of_run_pages {h h' : Host} (rooted : h.disk.Rooted) {ids : List PageId}
    (ran : s.pages.run.run h = (.ok ids, h')) :
    ids = s.listPages h.disk ∧ Disk.SameBut "store.lock" h.disk h'.disk := by
  rw [pages, run_get_bind] at ran
  split at ran
  · rename_i there
    rcases of_run_reading (fun d => .ok (s.listPages d)) (fun _ => rfl) there ran with
      ⟨result, same⟩
    cases result
    exact ⟨listPages_of_sameBut same there, same⟩
  · rename_i missing
    cases ran
    exact ⟨(listPages_of_missing rooted (by simpa using missing)).symm,
      Disk.SameBut.refl _ h.disk⟩

end DirectoryStore

end TemplateVars
