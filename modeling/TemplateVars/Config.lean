import TemplateVars.Render.Engine
import TemplateVars.Store.Directory
import TemplateVars.Toml.Reader

/-!
# Configuration

The settings of a host: which features are switched on and where the store is.
They are kept in a TOML file in which everything may be left out. Settings that
a store cannot work with are refused.
-/

namespace TemplateVars

/-- The settings of the directory store. -/
structure StoreSettings where
  path : String := ".wikivars/store"
  /-- How many milliseconds writers wait for the lock. -/
  lockTimeout : Nat := 30000
  /-- How many milliseconds readers wait for the lock. -/
  readLockTimeout : Nat := 5000
  deriving DecidableEq

/-- The settings of a host. -/
structure Config where
  features : Features := {}
  store : StoreSettings := {}
  deriving DecidableEq

/-- A setting that a store cannot work with. -/
inductive InvalidSetting where
  /-- Writers would not wait at all. -/
  | lockTimeout
  /-- Readers would not wait at all. -/
  | readLockTimeout
  /-- The store has no path. -/
  | path
  deriving DecidableEq

/-- Why a configuration could not be read or written. -/
inductive ConfigError where
  /-- The file could not be read. -/
  | unreadable (fault : DiskFault)
  /-- The text is no configuration, or a setting cannot be written. -/
  | malformed
  /-- A setting is refused. -/
  | invalid (setting : InvalidSetting)
  /-- The file could not be written. -/
  | unwritable (fault : DiskFault)
  deriving DecidableEq

/-- The text of a configuration error. -/
def ConfigError.message : ConfigError → String
  | unreadable fault => "CONFIG_PARSE_ERROR: " ++ fault.message
  | malformed => "CONFIG_PARSE_ERROR"
  | invalid .lockTimeout =>
    "CONFIG_INVALID_VALUE: store.lock_timeout_ms: must be greater than zero"
  | invalid .readLockTimeout =>
    "CONFIG_INVALID_VALUE: store.read_lock_timeout_ms: must be greater than zero"
  | invalid .path => "CONFIG_INVALID_VALUE: store.path: must not be empty"
  | unwritable fault => "IO_ERROR: " ++ fault.message

namespace Config

/-! ### Reading -/

/-- A truth value. -/
def bool? : Toml → Option Bool
  | .boolean b => some b
  | _ => none

/-- A text. -/
def text? : Toml → Option String
  | .string s => some s
  | _ => none

/-- A number of milliseconds. -/
def natural? : Toml → Option Nat
  | .integer (.ofNat n) => some n
  | _ => none

/-- The settings of a group by name: a table's members, or an array's elements in order. -/
def group? (names : List String) : Toml → Option Toml.Members
  | .table _ members => some members
  | .array elements => some (names.zip elements)
  | .datetime _ => some []
  | _ => none

/-- A setting that may be left out. -/
def setting {α : Type} (group : Toml.Members) (name : String) (default : α)
    (read : Toml → Option α) : Option α :=
  match group.lookup name with
  | some value => read value
  | none => some default

/-- Read the features. -/
def features? (t : Toml) : Option Features := do
  let group ← group? ["define", "data"] t
  let default : Features := {}
  return {
    define := ← setting group "define" default.define bool?
    data := ← setting group "data" default.data bool? }

/-- Read the settings of the store. -/
def store? (t : Toml) : Option StoreSettings := do
  let group ← group? ["path", "lock_timeout_ms", "read_lock_timeout_ms"] t
  let default : StoreSettings := {}
  return {
    path := ← setting group "path" default.path text?
    lockTimeout := ← setting group "lock_timeout_ms" default.lockTimeout natural?
    readLockTimeout := ← setting group "read_lock_timeout_ms" default.readLockTimeout natural? }

/-- The configuration that a document holds. -/
def ofMembers? (document : Toml.Members) : Option Config := do
  let default : Config := {}
  return {
    features := ← setting document "features" default.features features?
    store := ← setting document "store" default.store store? }

/-- The first setting that a store cannot work with. -/
def flaw? (c : Config) : Option InvalidSetting :=
  if c.store.lockTimeout = 0 then some .lockTimeout
  else if c.store.readLockTimeout = 0 then some .readLockTimeout
  else if c.store.path = "" then some .path
  else none

/-- Refuse settings that a store cannot work with. -/
def validate (c : Config) : Except ConfigError Unit :=
  match c.flaw? with
  | some setting => .error (.invalid setting)
  | none => .ok ()

/-- The valid configuration that a text holds. -/
def read (s : String) : Except ConfigError Config :=
  match (Toml.read? s).bind ofMembers? with
  | none => .error .malformed
  | some c => c.validate.map fun _ => c

/-- The configuration in a file. -/
def load (d : Disk) (p : Path) : Except ConfigError Config :=
  match d.readText p with
  | .error fault => .error (.unreadable fault)
  | .ok text => read text

/-! ### Writing -/

/-- The greatest whole number that can be written. -/
def maxWritten : Nat := 9223372036854775807

/-- A line with a setting. -/
def line (name : String) (value : List Char) : List Char :=
  name.toList ++ [' ', '=', ' '] ++ value ++ ['\n']

/-- A truth value as it is written. -/
def writeBool (b : Bool) : List Char := if b then "true".toList else "false".toList

/-- The text of a configuration, unless a number is too large for it. -/
def write (c : Config) : Except ConfigError String :=
  if maxWritten < c.store.lockTimeout ∨ maxWritten < c.store.readLockTimeout then
    .error .malformed
  else
    .ok <| String.ofList <|
      "[features]\n".toList ++
      line "define" (writeBool c.features.define) ++
      line "data" (writeBool c.features.data) ++
      "\n[store]\n".toList ++
      line "path" (Toml.Quoted.write c.store.path) ++
      line "lock_timeout_ms" (Nat.toDigits 10 c.store.lockTimeout) ++
      line "read_lock_timeout_ms" (Nat.toDigits 10 c.store.readLockTimeout)

/-- Write a configuration to a file. -/
def save (c : Config) (p : Path) : HostAction ConfigError Unit := do
  let text ← ExceptT.mk (pure c.write)
  Host.onDisk .unwritable (Disk.writeFile p text.toUTF8)

/-- The store that a configuration points at. -/
def directoryStore (c : Config) : DirectoryStore := ⟨.ofText c.store.path⟩

end Config

end TemplateVars
