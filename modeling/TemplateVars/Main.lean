import Std.Time.DateTime.Timestamp
import TemplateVars.Command.Tool

/-!
# The program

Runs the command line tool on the files of the machine. What the command may
look at is taken over into a disk, the tool runs on that disk, and what changed
is written back. The lock file of the store is locked meanwhile, if there is
one.
-/

namespace TemplateVars.Machine

/-- The text of a place. -/
def textOfPlace (place : Place) : String := "/" ++ "/".intercalate place

/-- Where the program was started. -/
def startPlace : IO Place := do
  let here := (← IO.currentDir).toString
  return (Path.ofText here).steps

/-- Take over what stands at a place, with what stands beneath it down to a depth. -/
def takePlace (depth : Nat) (d : Disk) (place : Place) : IO Disk := do
  let real := (← IO.currentDir) / textOfPlace place
  if ← real.isDir then
    let d := d.put place .directory
    match depth with
    | 0 => return d
    | depth + 1 =>
      (← real.readDir).foldlM (fun d e => takePlace depth d (place ++ [e.fileName])) d
  else if ← real.pathExists then
    return d.putFile place (← IO.FS.readBinFile real)
  else return d

/-- Take over what a path leads through and what it leads to. -/
def takePath (depth : Nat) (d : Disk) (p : Path) : IO Disk := do
  let mut d := d
  let mut place := d.start p
  for step in p.steps do
    place := if step = ".." then place.dropLast else place ++ [step]
    d ← takePlace 0 d place
  takePlace depth d place

/-- Write what changed between two disks back to the machine. -/
def writeBack (before after : Disk) : IO Unit := do
  for (place, entry) in after.entries.toList do
    if before.entry? place ≠ some entry then
      let text := textOfPlace place
      match entry with
      | .directory => IO.FS.createDir text
      | .file _ content =>
        IO.FS.writeBinFile (text ++ ".new") content
        IO.FS.rename (text ++ ".new") text
  for (place, _) in before.entries.toList do
    if (after.entry? place).isNone then IO.FS.removeFile (textOfPlace place)

/-- How many milliseconds pass between two attempts at a lock. -/
def pause : Nat := 50

/-- Whether a lock was had within a number of attempts. -/
def tryLock (handle : IO.FS.Handle) (exclusive : Bool) : Nat → IO Bool
  | 0 => handle.tryLock exclusive
  | attempts + 1 => do
    if ← handle.tryLock exclusive then return true
    IO.sleep pause.toUInt32
    tryLock handle exclusive attempts

/-- Whether a command may write. -/
def mayWrite : Command → Bool
  | .purge _ | .diff _ _ _ true _ => true
  | _ => false

/-- The current time. -/
def now : IO Timestamp := do
  let t := (← Std.Time.Timestamp.now).val
  return .ofSeconds t.second.val t.nano.val.toNat

/-- The environment as far as the tool looks at it. -/
def environment : IO Environment := do
  let names := [
    "WIKIVARS_CONFIG", "WIKIVARS_STORE", "CLICOLOR", "CLICOLOR_FORCE", "NO_COLOR", "RUST_LOG",
    "RUST_LOG_STYLE"]
  names.filterMapM fun name => return (← IO.getEnv name).map fun value => (name, value)

/-- The files that an invocation reads besides those of the store. -/
def readFiles (i : Invocation) : List Path :=
  i.config.getD Tool.usualConfig ::
    match i.command with
    | .diff _ file _ _ _ => [file]
    | _ => []

/-- Run the tool under the lock of a store, if there is a lock file. -/
def runLocked (l : Launch) (i : Invocation) (c : Config) (d : Disk) : IO Outcome := do
  let s := c.directoryStore
  let take : IO Disk := takePath 2 d s.root
  let finish (before : Disk) (guards : List Guard) : IO Outcome := do
    let (outcome, host) := (Tool.run l).run { disk := before, guards, nextGuard := guards.length }
    writeBack before host.disk
    return outcome
  let disk ← take
  match disk.readEntry s.lockPath with
  | .ok (.file file _) =>
    let handle ← IO.FS.Handle.mk (textOfPlace (disk.start s.root ++ s.lockPath.steps)) .append
    let exclusive := mayWrite i.command
    let limit := if exclusive then c.store.lockTimeout else c.store.readLockTimeout
    if ← tryLock handle exclusive (limit / pause) then
      let outcome ← finish (← take) []
      handle.unlock
      return outcome
    else finish disk [⟨0, file, s.lockPath, .exclusive⟩]
  | _ => finish disk []

/-- Run the tool on the files of the machine. -/
def run (l : Launch) : IO Outcome := do
  let nothing := Disk.empty (← startPlace)
  match Invocation.read l.environment l.words with
  | .error _ => return ((Tool.run l).run { disk := nothing }).1
  | .ok i =>
    let disk ← (readFiles i).foldlM (takePath 0) nothing
    match Tool.configuration disk i with
    | .error _ => return ((Tool.run l).run { disk }).1
    | .ok c => runLocked l i c disk

/-- The line of a notice in the log. -/
def logLine (styled : Bool) (t : Timestamp) (n : Notice) : String :=
  let level := Style.yellow.paint styled "WARN "
  "[" ++ t.stored ++ " " ++ level ++ " " ++ n.target ++ "] " ++ n.words

end TemplateVars.Machine

open TemplateVars in
/-- Run the tool on the words of the command line. -/
def main (words : List String) : IO UInt32 := do
  let stdout ← IO.getStdout
  let l : Launch := {
    words
    environment := ← Machine.environment
    onTerminal := ← stdout.isTty
    now := ← Machine.now }
  let outcome ← Machine.run l
  let stderr ← IO.getStderr
  for n in outcome.notices do stderr.putStrLn (Machine.logLine outcome.styled l.now n)
  stdout.putStr outcome.output
  if let some e := outcome.error then stderr.putStrLn e
  if outcome.code = 2 then stderr.putStrLn "error: the command line makes no sense; see --help"
  return outcome.code.toUInt32
