import TemplateVars.Page.Json
import TemplateVars.Store.Gateway
import TemplateVars.Text.Numeral

/-!
# Pages in a directory

A store that keeps each page record in a file of its own, `pages/<id>.json`
beneath its root, and guards them all by the lock on `store.lock`. A writer
holds the lock alone from reading a record to replacing its file; readers share
it. A file is replaced as a whole, so that no reader finds half a record.
-/

namespace TemplateVars

/-- A store in a directory. -/
structure DirectoryStore where
  root : Path
  deriving DecidableEq

namespace DirectoryStore

/-- The lock file. -/
def lockPath (s : DirectoryStore) : Path := s.root.child "store.lock"

/-- The directory of the page files. -/
def pagesPath (s : DirectoryStore) : Path := s.root.child "pages"

/-- The file of a page. -/
def pagePath (s : DirectoryStore) (page : PageId) : Path :=
  s.pagesPath.child (toString page ++ ".json")

/-- The record that a page file's text holds, if it is that of the page. -/
def recordOfText (path : Path) (page : PageId) (text : String) :
    Except StoreError PageRecord :=
  match PageRecord.read? text with
  | none => .error (.corrupt path .notARecord)
  | some r => if r.pageId = page then .ok r else .error (.corrupt path (.belongsTo r.pageId))

/-- Read the record of a page; the caller holds the lock. -/
def readRecord (s : DirectoryStore) (page : PageId) : StoreAction Host (Option PageRecord) := do
  let path := s.pagePath page
  match (← get).disk.readText path with
  | .error .notFound => return none
  | .error fault => throw (.read page path fault)
  | .ok text =>
    let r ← ExceptT.mk (pure (recordOfText path page text))
    return some r

/-- Write the record of a page; the caller holds the lock alone. -/
def writeRecord (s : DirectoryStore) (r : PageRecord) : StoreAction Host Unit := do
  Host.onDisk (fun fault => .write r.pageId (.createDirectory s.pagesPath fault))
    (Disk.makeDirectories s.pagesPath)
  Host.onDisk (fun fault => .write r.pageId (.replace fault))
    (Disk.replaceFile (s.pagePath r.pageId) r.write.toUTF8)

/-- Remove the file of a page, and tell whether there was one; the caller holds the lock alone. -/
def removeRecord (s : DirectoryStore) (page : PageId) : StoreAction Host Bool := do
  let path := s.pagePath page
  match (← get).disk.readEntry path with
  | .error .notFound => return false
  | _ =>
    Host.onDisk (fun fault => .write page (.remove path fault)) (Disk.removeFile path)
    return true

/-- The stored record of a page. -/
def loadRecord (s : DirectoryStore) (page : PageId) : StoreAction Host (Option PageRecord) := do
  if (← get).disk.pathExists s.root then
    Host.withLock .lock s.lockPath .shared "page read" (s.readRecord page)
  else return none

/-- The page that a file name stands for. -/
def pageOfName? (name : String) : Option PageId :=
  if Path.extension? name = some "json" then Text.readNumber? Text.maxWord64 (Path.stem name)
  else none

/-- The pages that the names in the directory of the page files stand for, in ascending order. -/
def listPages (s : DirectoryStore) (d : Disk) : List PageId :=
  match d.locate s.pagesPath with
  | .error _ => []
  | .ok place => ((d.names place).filterMap pageOfName?).mergeSort (· ≤ ·)

/-- The stored pages in ascending order. -/
def pages (s : DirectoryStore) : StoreAction Host (List PageId) := do
  if (← get).disk.pathExists s.pagesPath then
    Host.withLock .lock s.lockPath .shared "page listing" (return s.listPages (← get).disk)
  else return []

/-- Apply a plan to the record of its page. -/
def save (s : DirectoryStore) (p : Plan) (now : Timestamp) : StoreAction Host SaveOutcome := do
  if p.isEmpty then return {}
  Host.withLock .lock s.lockPath .exclusive "apply plan" do
    let stored ← s.readRecord p.pageId
    let applied := p.apply now (stored.getD { pageId := p.pageId })
    if applied.record.sets.isEmpty then discard (s.removeRecord p.pageId)
    else s.writeRecord applied.record
    return { report := applied.report, warnings := applied.warnings }

/-- Drop everything stored for a page, and tell whether there was anything. -/
def deleteAll (s : DirectoryStore) (page : PageId) : StoreAction Host Bool := do
  if (← get).disk.pathExists s.root then
    Host.withLock .lock s.lockPath .exclusive "delete page" (s.removeRecord page)
  else return false

/-- The store as a gateway. -/
def gateway (s : DirectoryStore) : Gateway Host where
  loadSets page := return (← s.loadRecord page).map (·.toCollection)
  loadFiltered page set names := return (← s.loadRecord page).bind (·.filtered set names)
  savePlan := s.save
  deleteAll := s.deleteAll

end DirectoryStore

end TemplateVars
