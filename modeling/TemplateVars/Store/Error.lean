import TemplateVars.Lock
import TemplateVars.Saved.Name

/-!
# Store errors

Why a store could not be read or written. That nothing is stored is no error.
-/

namespace TemplateVars

/-- What is wrong with the content of a page file. -/
inductive RecordFlaw where
  /-- The text is no page record. -/
  | notARecord
  /-- The record is that of another page. -/
  | belongsTo (page : PageId)
  deriving DecidableEq

/-- Why a page could not be written. -/
inductive WriteFault where
  /-- The directory of the page files could not be made. -/
  | createDirectory (path : Path) (fault : DiskFault)
  /-- The new file could not be put in place. -/
  | replace (fault : DiskFault)
  /-- The page file could not be removed. -/
  | remove (path : Path) (fault : DiskFault)
  deriving DecidableEq

/-- The words for a write fault. -/
def WriteFault.words : WriteFault → String
  | createDirectory path fault => "Failed to create " ++ path.text ++ ": " ++ fault.message
  | replace fault =>
    "Failed to persist temp file: failed to persist temporary file: " ++ fault.message
  | remove path fault => "Failed to remove " ++ path.text ++ ": " ++ fault.message

/-- Why a store operation failed. -/
inductive StoreError where
  | read (page : PageId) (path : Path) (fault : DiskFault)
  | write (page : PageId) (fault : WriteFault)
  | lock (error : LockError)
  /-- A page file holds something else than the record of its page. -/
  | corrupt (path : Path) (flaw : RecordFlaw)
  deriving DecidableEq

/-- The text of a store error. -/
def StoreError.message : StoreError → String
  | read page path fault =>
    "STORE_READ_ERROR: failed to read stored sets for page " ++ toString page ++
      ": Failed to read " ++ path.text ++ ": " ++ fault.message
  | write page fault =>
    "STORE_WRITE_ERROR: failed to write stored sets for page " ++ toString page ++ ": " ++
      fault.words
  | lock error => "STORE_LOCK_ERROR: " ++ error.message
  | corrupt path flaw =>
    "STORE_CORRUPT: '" ++ path.text ++ "' is not a valid page record" ++
      match flaw with
      | .notARecord => ""
      | .belongsTo page => ": record belongs to page " ++ toString page

end TemplateVars
