import TemplateVars.Disk.Fault
import TemplateVars.Disk.Path
import TemplateVars.SortedMap

/-!
# Disks

The files and directories that a store works on, by their place below the top.
A file has an identity besides its content: whoever has it open, to lock it for
instance, keeps that very file even if another one takes its place.
-/

namespace TemplateVars

/-- Where something is on a disk: the names that lead to it from the top. -/
abbrev Place := List String

/-- Tells files apart that stand at the same place one after another. -/
abbrev FileId := Nat

/-- What stands at a place. -/
inductive Entry where
  | directory
  | file (id : FileId) (content : ByteArray)

/-- Files are equal when they agree in identity and bytes. -/
instance : DecidableEq Entry
  | .directory, .directory => isTrue rfl
  | .directory, .file _ _ => isFalse nofun
  | .file _ _, .directory => isFalse nofun
  | .file i c, .file j d =>
    if h : i = j ∧ c.data = d.data then isTrue (by rw [h.1, ByteArray.ext h.2])
    else isFalse fun e => h (by injection e with ids contents; exact ⟨ids, congrArg _ contents⟩)

/-- The files and directories at hand. -/
structure Disk where
  /-- What stands at each place. -/
  entries : SortedMap Place Entry
  /-- The identity that the next new file gets. -/
  nextFile : FileId
  /-- The directory where paths start that do not start at the top. -/
  here : Place

/-- An operation on a disk; what it did before a fault stays done. -/
abbrev DiskAction (α : Type) := ExceptT DiskFault (StateM Disk) α

namespace Disk

/-- A disk with one empty directory, where paths start. -/
def empty (here : Place) : Disk where
  entries := .ofList ((List.range (here.length + 1)).map fun n => (here.take n, .directory))
  nextFile := 0
  here

/-- The greatest number of bytes of a name. -/
def maxNameBytes : Nat := 255

/-- The number of bytes that a path has to stay under. -/
def maxPathBytes : Nat := 4096

/-- What stands at a place. -/
def entry? (d : Disk) (place : Place) : Option Entry := d.entries.find? place

/-- Take one step from a place, which must be a directory. -/
def descend (d : Disk) (place : Place) (step : String) : Except DiskFault Place :=
  match d.entry? place with
  | none => .error .notFound
  | some (.file _ _) => .error .notDirectory
  | some .directory =>
    if step = "" ∨ step = "." then .ok place
    else if step = ".." then .ok place.dropLast
    else if maxNameBytes < step.utf8ByteSize then .error .nameTooLong
    else .ok (place ++ [step])

/-- Where a path starts. -/
def start (d : Disk) (p : Path) : Place := if p.isAbsolute then [] else d.here

/-- Where some parts of a path lead; all but the last must lead through directories. -/
def follow (d : Disk) (p : Path) (parts : List String) : Except DiskFault Place :=
  if p.text = "" then .error .notFound
  else if p.text.toList.contains '\x00' then .error .nullInName
  else if maxPathBytes ≤ p.text.utf8ByteSize then .error .nameTooLong
  else parts.foldlM d.descend (d.start p)

/-- Where a path leads. -/
def locate (d : Disk) (p : Path) : Except DiskFault Place := d.follow p p.parts

/-- What a path leads to. -/
def readEntry (d : Disk) (p : Path) : Except DiskFault Entry := do
  let place ← d.locate p
  match d.entry? place with
  | some e => .ok e
  | none => .error .notFound

/-- Whether a path leads to anything. -/
def pathExists (d : Disk) (p : Path) : Bool :=
  match d.readEntry p with
  | .ok _ => true
  | .error _ => false

/-- Whether a path leads to a directory. -/
def isDirectory (d : Disk) (p : Path) : Bool :=
  match d.readEntry p with
  | .ok .directory => true
  | _ => false

/-- The text of the file that a path leads to. -/
def readText (d : Disk) (p : Path) : Except DiskFault String := do
  match ← d.readEntry p with
  | .directory => .error .isDirectory
  | .file _ content =>
    match String.fromUTF8? content with
    | some s => .ok s
    | none => .error .notText

/-- The names of what stands directly in a directory. -/
def names (d : Disk) (place : Place) : List String :=
  d.entries.keys.filterMap fun p =>
    match p.getLast? with
    | some name => if p.dropLast = place then some name else none
    | none => none

/-- Put something at a place. -/
def put (d : Disk) (place : Place) (e : Entry) : Disk :=
  { d with entries := d.entries.insert place e }

/-- Put a new file at a place. -/
def putFile (d : Disk) (place : Place) (content : ByteArray) : Disk :=
  { d with
    entries := d.entries.insert place (.file d.nextFile content)
    nextFile := d.nextFile + 1 }

/-! ### Operations -/

/-- Make a directory at a path. -/
def makeDirectory (p : Path) : DiskAction Unit := do
  let d ← get
  let place ← ExceptT.mk (pure (d.follow p p.beforeSlashes))
  match d.entry? place with
  | some _ => throw .alreadyExists
  | none => set (d.put place .directory)

/-- Make a directory unless it is there already. -/
def ensureDirectory (p : Path) : DiskAction Unit := do
  try makeDirectory p
  catch fault =>
    if (← get).isDirectory p then pure () else throw fault

/--
Make a directory and those it stands in, given the parts of its path from the
last to the first. The directory where paths start is there already.
-/
def makeDirectoriesUp (back : List String) : DiskAction Unit :=
  if _h : back = [] then pure ()
  else do
    let p : Path := ⟨back.reverse⟩
    try ensureDirectory p
    catch fault =>
      if fault ≠ .notFound then throw fault
      makeDirectoriesUp (Path.outward back)
      ensureDirectory p
termination_by back.length
decreasing_by exact Path.length_outward ‹_›

/-- Make the directory at a path and all around it; an empty path asks for none. -/
def makeDirectories (p : Path) : DiskAction Unit :=
  if p.text = "" then pure () else makeDirectoriesUp p.parts.reverse

/-- Open the file at a path, which is created empty if there is none. -/
def openFile (p : Path) : DiskAction FileId := do
  let d ← get
  if p.endsInSlash then
    let _ ← ExceptT.mk (pure (d.follow p (p.beforeSlashes.dropLast ++ ["."])))
    throw .isDirectory
  let place ← ExceptT.mk (pure (d.locate p))
  match d.entry? place with
  | some .directory => throw .isDirectory
  | some (.file id _) => return id
  | none =>
    set (d.putFile place .empty)
    return d.nextFile

/-- Write a file; one that is there keeps its identity. -/
def writeFile (p : Path) (content : ByteArray) : DiskAction Unit := do
  let id ← openFile p
  let d ← get
  let place ← ExceptT.mk (pure (d.locate p))
  set (d.put place (.file id content))

/-- Put a new file in the place of the one at a path. -/
def replaceFile (p : Path) (content : ByteArray) : DiskAction Unit := do
  let d ← get
  let place ← ExceptT.mk (pure (d.locate p))
  if d.entry? place = some .directory then throw .isDirectory
  set (d.putFile place content)

/-- Remove the file at a path. -/
def removeFile (p : Path) : DiskAction Unit := do
  let d ← get
  let place ← ExceptT.mk (pure (d.locate p))
  match d.entry? place with
  | none => throw .notFound
  | some .directory => throw .isDirectory
  | some (.file _ _) => set { d with entries := d.entries.erase place }

end Disk

end TemplateVars
