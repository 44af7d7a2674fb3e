import TemplateVars.Proofs.Command.Diff
import TemplateVars.Proofs.Store.Listing

/-!
# Listing the stored pages

The command that lists the stored pages asks the store for the pages and loads
each of them. It drops a page that is listed without a file, but shows a page
twice that is listed twice. What is shown is exactly what is stored if no other
name in the directory of the page files stands for a stored page; for the
listing itself all names that stand for pages must be those of page files.
-/

namespace TemplateVars

open TemplateVars.Action Host

namespace DirectoryStore

variable {s : DirectoryStore} {page : PageId} {h h' : Host} {stored : Option PageRecord}

/-- A page is loaded as a record of its own if it has a file, and else as nothing. -/
theorem of_run_loadRecord_there (named : s.root.text ≠ "")
    (there : h.disk.pathExists s.pagesPath = true)
    (loaded : (s.loadRecord page).run.run h = (.ok stored, h')) :
    stored.map (·.pageId) =
        (if h.disk.pathExists (s.pagePath page) then some page else none) ∧
      Disk.SameBut "store.lock" h.disk h'.disk := by
  rcases Disk.pathExists_iff.1 there with ⟨e, found⟩
  rcases Disk.readEntry_eq_ok.1 found with ⟨place, located, -⟩
  rcases Disk.exists_locate_of_child named located with ⟨root, rootLocated, directory⟩
  have root : h.disk.pathExists s.root = true :=
    Disk.pathExists_iff.2 ⟨_, Disk.readEntry_eq_ok.2 ⟨root, rootLocated, directory⟩⟩
  rw [loadRecord, run_get_bind, if_pos root] at loaded
  rcases of_run_reading (s.recordOn page) (s.run_readRecord page) there loaded with
    ⟨read, same⟩
  refine ⟨?_, same⟩
  rw [← pathExists_of_sameBut same there page]
  cases stored with
  | none => simp [pathExists_of_recordOn_none read]
  | some r => simp [pathExists_of_recordOn_some read, pageId_of_recordOn read]

end DirectoryStore

namespace Command

variable {store : DirectoryStore} {c c' : Console}

/-- Of some pages, those that have a file are loaded. -/
theorem map_pageId_of_mapM (named : store.root.text ≠ "") {ids : List PageId}
    {found : List (Option PageRecord)} (there : c.host.disk.pathExists store.pagesPath = true)
    (ran : (ids.mapM fun page => onStore (store.loadRecord page)).run.run c = (.ok found, c')) :
    (found.filterMap id).map (·.pageId) =
      ids.filter fun page => c.host.disk.pathExists (store.pagePath page) := by
  induction ids generalizing c found with
  | nil =>
      cases ran
      rfl
  | cons page ids ih =>
      rw [List.mapM_cons] at ran
      rcases run_bind_eq_ok.1 ran with ⟨stored, c₁, loaded, rest⟩
      rcases run_bind_eq_ok.1 rest with ⟨others, c₂, ranOthers, done⟩
      cases done
      rcases run_onStore_eq_ok.1 loaded with ⟨h, ranLoad, rfl⟩
      rcases DirectoryStore.of_run_loadRecord_there named there ranLoad with ⟨own, same⟩
      have still : h.disk.pathExists store.pagesPath = true := same.pathExists there
      have tail := ih (c := { c with host := h }) still ranOthers
      simp only [DirectoryStore.pathExists_of_sameBut same there] at tail
      rw [List.filter_cons]
      split at own
      · rename_i present
        rcases Option.map_eq_some_iff.1 own with ⟨r, rfl, rfl⟩
        rw [if_pos present, ← tail]
        rfl
      · rename_i missing
        rw [Option.map_eq_none_iff.1 own, if_neg missing, ← tail]
        rfl

/-- The records of all stored pages are those of the listed pages that have a file. -/
theorem of_run_records (named : store.root.text ≠ "") (rooted : c.host.disk.Rooted)
    {shown : List PageRecord} (ran : (records store).run.run c = (.ok shown, c')) :
    shown.map (·.pageId) = store.presentPages c.host.disk := by
  rcases run_bind_eq_ok.1 ran with ⟨ids, c₁, ranPages, rest⟩
  rcases run_bind_eq_ok.1 rest with ⟨found, c₂, ranFound, done⟩
  cases done
  rcases run_onStore_eq_ok.1 ranPages with ⟨h, listed, rfl⟩
  rcases DirectoryStore.of_run_pages rooted listed with ⟨rfl, same⟩
  cases there : c.host.disk.pathExists store.pagesPath with
  | false =>
      rw [DirectoryStore.presentPages]
      rw [DirectoryStore.listPages_of_missing rooted there] at ranFound ⊢
      cases ranFound
      rfl
  | true =>
      have still : h.disk.pathExists store.pagesPath = true := same.pathExists there
      rw [map_pageId_of_mapM (c := { c with host := h }) named still ranFound,
        DirectoryStore.presentPages]
      simp only [DirectoryStore.pathExists_of_sameBut same there]

/-- The text that shows some records as the stored ones. -/
def listed (s : Surroundings) (json : Bool) (shown : List PageRecord) : String :=
  if json then textOfJson (PageRecord.listingJson s.store.root s.now shown)
  else textOfLines (PageRecord.listing s.colored s.verbose s.store.root shown)

theorem runList_eq (s : Surroundings) (json : Bool) :
    runList s json = (do
      let shown ← records s.store
      return listed s json shown) := by
  refine congrArg (records s.store >>= ·) (funext fun shown => ?_)
  rw [listed]
  split <;> rfl

/--
The listing of a store is exact, in ascending order and with the pages that have
a file and no others, if and only if each name in the directory of the page files
that stands for a page is that of its file. The command that lists the pages,
which leaves out pages without a file, shows exactly the stored pages if and only
if no other name stands for one of them.
-/
theorem listing_exact_iff (rooted : c.host.disk.Rooted) :
    (∀ ids h, store.pages.run.run c.host = (.ok ids, h) →
      (store.ListsExactly c.host.disk ids ↔ store.PlainNames c.host.disk)) ∧
      ∀ s json output c', s.store = store → store.root.text ≠ "" →
        (runList s json).run.run c = (.ok output, c') →
        ∃ shown, output = listed s json shown ∧
          (store.ListsExactly c.host.disk (shown.map (·.pageId)) ↔
            store.OwnNames c.host.disk) := by
  constructor
  · intro ids h ran
    rw [(DirectoryStore.of_run_pages rooted ran).1]
    exact DirectoryStore.listsExactly_listPages_iff rooted
  · rintro s json output c' rfl named ran
    rw [runList_eq] at ran
    rcases run_bind_eq_ok.1 ran with ⟨shown, c₁, ranRecords, done⟩
    cases done
    refine ⟨shown, rfl, ?_⟩
    rw [of_run_records named rooted ranRecords]
    exact DirectoryStore.listsExactly_presentPages_iff rooted

/-- A disk on which a store has files in its directory of page files. -/
def shelf (files : List (String × String)) : Disk :=
  files.foldl (fun d file => d.putFile ["home", "store", "pages", file.1] file.2.toUTF8)
    (((Disk.empty ["home"]).put ["home", "store"] .directory).put
      ["home", "store", "pages"] .directory)

def atShelf : Surroundings where
  config := { store := { path := "store" } }
  colored := false
  verbose := false
  now := ⟨2024, 1, 1, 0, 0, 0, 0⟩

/-- A page file, and a file that is none. -/
def plainShelf : Disk :=
  shelf [("7.json", "\x7b\"page_id\":7\x7d"), ("notes.txt", "ignored")]

theorem listing_exact_plainShelf :
    (∃ ids h, atShelf.store.pages.run.run { disk := plainShelf } = (.ok ids, h) ∧
      atShelf.store.ListsExactly plainShelf ids) ∧
      ∃ output c' shown, (runList atShelf false).run.run { host := { disk := plainShelf } } =
          (.ok output, c') ∧ output = listed atShelf false shown ∧
        atShelf.store.ListsExactly plainShelf (shown.map (·.pageId)) := by
  let c : Console := { host := { disk := plainShelf } }
  have plain : atShelf.store.PlainNames plainShelf := by decide +kernel
  have own : atShelf.store.OwnNames plainShelf :=
    fun name named page reads _ => (plain name named page reads).1
  have pages : (atShelf.store.pages.run.run c.host).1 = .ok [7] := by decide +kernel
  have shows : ((runList atShelf false).run.run c).1.toOption.isSome = true := by decide +kernel
  rcases exists_eq_ok shows with ⟨output, ran⟩
  have exactly := @listing_exact_iff atShelf.store c (by decide +kernel)
  rcases exactly.2 atShelf false output _ rfl (by decide) ran with ⟨shown, text, iff⟩
  exact ⟨⟨[7], _, Prod.ext pages rfl, (exactly.1 _ _ (Prod.ext pages rfl)).2 plain⟩,
    output, _, shown, ran, text, iff.2 own⟩

/-- A numeral with zeros in front, in the directory of the page files. -/
def paddedShelf : Disk := shelf [("007.json", "\x7b\x7d")]

/-- A page file, and a numeral with a sign for the same page. -/
def signedShelf : Disk := shelf [("7.json", "\x7b\"page_id\":7\x7d"), ("+7.json", "\x7b\x7d")]

/-- Numerals that page files are not called by are listed, without a page file or beside it. -/
theorem alias_names_listed :
    ((atShelf.store.pages.run.run { disk := paddedShelf }).1 = .ok [7] ∧
      paddedShelf.pathExists (atShelf.store.pagePath 7) = false ∧
      ¬ atShelf.store.ListsExactly paddedShelf [7]) ∧
      ∃ ids h, atShelf.store.pages.run.run { disk := signedShelf } = (.ok ids, h) ∧
        ¬ ids.Pairwise (· < ·) := by
  have missing : paddedShelf.pathExists (atShelf.store.pagePath 7) = false := by decide +kernel
  refine ⟨⟨by decide +kernel, missing, fun exactly => ?_⟩, ?_⟩
  · have present := ((exactly.2 7).1 (by decide)).2
    rw [missing] at present
    cases present
  · let h : Host := { disk := signedShelf }
    have lists : (atShelf.store.pages.run.run h).1.toOption.isSome = true := by decide +kernel
    rcases exists_eq_ok lists with ⟨ids, ran⟩
    refine ⟨ids, _, ran, fun ascending => ?_⟩
    rw [(DirectoryStore.of_run_pages (by decide +kernel) ran).1] at ascending
    have same := (DirectoryStore.pairwise_filter_listPages_iff fun _ => true).1
      (ascending.filter _) "7.json" (by decide +kernel) "+7.json" (by decide +kernel) 7 rfl
      (by decide +kernel) (by decide +kernel)
    exact absurd same (by decide)

end Command

end TemplateVars
