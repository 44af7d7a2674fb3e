import TemplateVars.Disk.Basic

/-!
# Advisory locks

A lock is taken on a file, in one of two modes: any number of shared locks go
together, an exclusive one goes with no other. A lock that cannot be had is
waited for until a time limit; as nobody lets go of a lock meanwhile, waiting
ends in a timeout.
-/

namespace TemplateVars

/-- How a lock is held. -/
inductive LockMode where
  | shared
  | exclusive
  deriving DecidableEq

/-- What an attempt at a lock was doing when the disk refused. -/
inductive LockStep where
  | createDirectory
  | openFile
  deriving DecidableEq

/-- The words for a step. -/
def LockStep.words : LockStep → String
  | createDirectory => "create lock directory"
  | openFile => "open lock file"

/-- Why a lock was not had. -/
inductive LockError where
  /-- Another holder kept it past the time limit. -/
  | timeout (path : Path) (purpose : String)
  /-- The lock file could not be opened. -/
  | disk (step : LockStep) (path : Path) (fault : DiskFault)
  deriving DecidableEq

/-- The text of a lock error. -/
def LockError.message : LockError → String
  | timeout path purpose => "timed out waiting for lock on " ++ path.text ++ " (" ++ purpose ++ ")"
  | disk step path fault =>
    "I/O error during " ++ step.words ++ " on " ++ path.text ++ ": " ++ fault.message

/-- A lock that is held. -/
structure Guard where
  /-- Tells the locks held apart. -/
  number : Nat
  file : FileId
  /-- The path by which it was locked. -/
  path : Path
  mode : LockMode
  deriving DecidableEq

/-- A disk together with the locks held on its files. -/
structure Host where
  disk : Disk
  guards : List Guard := []
  /-- The number that the next lock gets. -/
  nextGuard : Nat := 0

/-- An operation on a host; what it did before an error stays done. -/
abbrev HostAction (ε α : Type) := ExceptT ε (StateM Host) α

namespace Host

/-- An operation on the disk of a host, with its faults as errors. -/
def onDisk {ε α : Type} (describe : DiskFault → ε) (act : DiskAction α) : HostAction ε α :=
  ExceptT.mk fun h =>
    let (result, disk) := act.run.run h.disk
    (result.mapError describe, { h with disk })

/-- Whether two locks on one file can be held together. -/
def compatible : LockMode → LockMode → Bool
  | .shared, .shared => true
  | _, _ => false

/-- Whether a lock on a file goes together with those held. -/
def isFree (h : Host) (file : FileId) (mode : LockMode) : Bool :=
  h.guards.all fun g => g.file != file || compatible g.mode mode

/-- Take a lock on the file at a path; the file and its directory are created if missing. -/
def acquire (path : Path) (mode : LockMode) (purpose : String) : HostAction LockError Guard := do
  onDisk (.disk .createDirectory path) (Disk.makeDirectories path.parent)
  let file ← onDisk (.disk .openFile path) (Disk.openFile path)
  let h ← get
  if h.isFree file mode then
    let g : Guard := { number := h.nextGuard, file, path, mode }
    set { h with guards := g :: h.guards, nextGuard := h.nextGuard + 1 }
    return g
  else throw (.timeout path purpose)

/-- Let go of a lock. -/
def release {ε : Type} (g : Guard) : HostAction ε Unit :=
  modify fun h => { h with guards := h.guards.filter fun other => other.number != g.number }

/-- Do something under a lock, which is let go of in any case. -/
def withLock {ε α : Type} (describe : LockError → ε) (path : Path) (mode : LockMode)
    (purpose : String) (act : HostAction ε α) : HostAction ε α := do
  let g ← (acquire path mode purpose).adapt describe
  try
    let a ← act
    release g
    return a
  catch e =>
    release g
    throw e

end Host

end TemplateVars
