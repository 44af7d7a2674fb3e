import TemplateVars.Config
import TemplateVars.Proofs.Disk.Operations
import TemplateVars.Proofs.Lock
import TemplateVars.Proofs.Toml.Reader

/-!
# Configurations are read back

A configuration that is valid, and whose numbers can be written at all, is read
back from its text and from a file that it has been written to, whatever the
characters of its path. In turn whatever is read is valid, and agrees with the
document in each setting that the document has; every other setting, and every
group that is missing, is what it is by default.
-/

namespace TemplateVars.Config

open TemplateVars.Action

/-! ### Writing and reading back -/

/-- The statements of a written configuration. -/
def statements (c : Config) : List Toml.Statement := [
  .header ["features"],
  .entry ["define"] (.boolean c.features.define),
  .entry ["data"] (.boolean c.features.data),
  .header ["store"],
  .entry ["path"] (.string c.store.path),
  .entry ["lock_timeout_ms"] (.integer c.store.lockTimeout),
  .entry ["read_lock_timeout_ms"] (.integer c.store.readLockTimeout)]

/-- The document of a written configuration. -/
def document (c : Config) : Toml.Members := [
  ("features", .table .header [
    ("define", .boolean c.features.define), ("data", .boolean c.features.data)]),
  ("store", .table .header [
    ("path", .string c.store.path),
    ("lock_timeout_ms", .integer c.store.lockTimeout),
    ("read_lock_timeout_ms", .integer c.store.readLockTimeout)])]

theorem line_append (name : String) (value rest : List Char) :
    line name value ++ rest = name.toList ++ ' ' :: '=' :: ' ' :: (value ++ '\n' :: rest) := by
  simp [line, List.append_assoc]

theorem bare_settings : Toml.Bare "features" ∧ Toml.Bare "store" ∧ Toml.Bare "define" ∧
    Toml.Bare "data" ∧ Toml.Bare "path" ∧ Toml.Bare "lock_timeout_ms" ∧
      Toml.Bare "read_lock_timeout_ms" := by
  refine ⟨?_, ?_, ?_, ?_, ?_, ?_, ?_⟩ <;> exact ⟨by decide, by decide⟩

variable {c : Config}

theorem holds_line {name : String} {value rest : List Char} {v : Toml}
    {rest' : List Toml.Statement} (plain : Toml.Bare name) (stands : Toml.StandsFor value v)
    (holds : Toml.Holds rest rest') :
    Toml.Holds (line name value ++ rest) (.entry [name] v :: rest') := by
  rw [line_append]
  exact Toml.holds_entry plain stands holds

/-- The text of a configuration reads as its statements. -/
theorem holds_statements (writers : c.store.lockTimeout ≤ maxWritten)
    (readers : c.store.readLockTimeout ≤ maxWritten) :
    ∃ text, c.write = .ok text ∧ Toml.Holds text.toList c.statements ∧
      text.toList.head? ≠ some '\ufeff' := by
  rcases bare_settings with ⟨features, store, define, data, path, lock, readLock⟩
  have tooLarge : ¬ (maxWritten < c.store.lockTimeout ∨ maxWritten < c.store.readLockTimeout) := by
    omega
  refine ⟨_, if_neg tooLarge, ?_, ?_⟩
  · have settings := holds_line path (Toml.standsFor_string c.store.path)
      (holds_line lock (Toml.standsFor_integer writers)
        (holds_line readLock (Toml.standsFor_integer readers) Toml.holds_nil))
    have switches := holds_line define (Toml.standsFor_boolean c.features.define)
      (holds_line data (Toml.standsFor_boolean c.features.data)
        (Toml.holds_lineBreak (Toml.holds_header store settings)))
    have whole := Toml.holds_header features switches
    rw [String.toList_ofList]
    simp only [List.append_assoc, List.append_nil] at whole ⊢
    exact whole
  · rw [String.toList_ofList]
    simp

theorem document_statements (c : Config) :
    (Toml.sections none c.statements).foldlM Toml.addToDocument [] = some c.document := rfl

theorem ofMembers?_document (c : Config) : ofMembers? c.document = some c := rfl

/-- A valid configuration whose numbers can be written is read back from its text. -/
theorem exists_read_write (valid : c.validate = .ok ()) (writers : c.store.lockTimeout ≤ maxWritten)
    (readers : c.store.readLockTimeout ≤ maxWritten) :
    ∃ text, c.write = .ok text ∧ read text = .ok c := by
  rcases holds_statements writers readers with ⟨text, written, holds, noMark⟩
  refine ⟨text, written, ?_⟩
  rw [read, Toml.read?_of_holds holds noMark, document_statements, Option.bind_some,
    ofMembers?_document]
  simp only [valid]
  rfl

/-- A configuration is saved unless the disk refuses, and then it is what its file holds. -/
theorem load_of_save (valid : c.validate = .ok ()) (writers : c.store.lockTimeout ≤ maxWritten)
    (readers : c.store.readLockTimeout ≤ maxWritten) (p : Path) (h : Host) :
    match (c.save p).run.run h with
    | (.ok (), h') => load h'.disk p = .ok c
    | (.error e, _) => ∃ fault, e = .unwritable fault := by
  rcases exists_read_write valid writers readers with ⟨text, written, read⟩
  have saves : (c.save p).run.run h =
      (Host.onDisk .unwritable (Disk.writeFile p text.toUTF8)).run.run h := by
    rw [save, run_bind, run_lift, written]
  rw [saves]
  cases ran : (Host.onDisk ConfigError.unwritable (Disk.writeFile p text.toUTF8)).run.run h with
  | mk result h' =>
      cases result with
      | error e =>
          rw [Host.run_onDisk] at ran
          cases wrote : ((Disk.writeFile p text.toUTF8).run.run h.disk).1 with
          | ok done =>
              rw [wrote] at ran
              cases ran
          | error fault =>
              rw [wrote] at ran
              cases ran
              exact ⟨fault, rfl⟩
      | ok done =>
          rcases Host.run_onDisk_eq_ok.1 ran with ⟨d, wrote, rfl⟩
          rcases Disk.readEntry_of_writeFile wrote with ⟨id, found⟩
          have content : d.readText p = .ok text :=
            Disk.readText_eq_ok.2 ⟨id, _, found, fromUTF8?_toUTF8 text⟩
          simp only [load, content]
          exact read

/-! ### What is read -/

/-- A setting is what a group has under its name, and its default if the group has nothing there. -/
def Gives {α : Type} (group : Toml.Members) (name : String) (reads : Toml → α → Prop)
    (default a : α) : Prop :=
  match group.lookup name with
  | some v => reads v a
  | none => a = default

/-- The features are those of a value. -/
def FeaturesOf (t : Toml) (f : Features) : Prop :=
  ∃ group, group? ["define", "data"] t = some group ∧
    Gives group "define" (fun v b => v = .boolean b) true f.define ∧
    Gives group "data" (fun v b => v = .boolean b) true f.data

/-- The settings of the store are those of a value. -/
def StoreOf (t : Toml) (s : StoreSettings) : Prop :=
  ∃ group, group? ["path", "lock_timeout_ms", "read_lock_timeout_ms"] t = some group ∧
    Gives group "path" (fun v s => v = .string s) ".wikivars/store" s.path ∧
    Gives group "lock_timeout_ms" (fun v (n : Nat) => v = .integer n) 30000 s.lockTimeout ∧
    Gives group "read_lock_timeout_ms" (fun v (n : Nat) => v = .integer n) 5000 s.readLockTimeout

/-- A configuration has the settings of a document, and the defaults in place of all others. -/
structure Of (document : Toml.Members) (c : Config) : Prop where
  features : Gives document "features" FeaturesOf { define := true, data := true } c.features
  store : Gives document "store" StoreOf
    { path := ".wikivars/store", lockTimeout := 30000, readLockTimeout := 5000 } c.store

theorem setting_eq_some {α : Type} {read : Toml → Option α} {reads : Toml → α → Prop}
    (reads_iff : ∀ v a, read v = some a ↔ reads v a) {group : Toml.Members} {name : String}
    {default a : α} :
    setting group name default read = some a ↔ Gives group name reads default a := by
  rw [setting, Gives]
  cases group.lookup name with
  | some v => exact reads_iff v a
  | none => exact ⟨fun same => (Option.some.inj same).symm, fun same => congrArg some same.symm⟩

theorem bool?_eq_some (v : Toml) (b : Bool) : bool? v = some b ↔ v = .boolean b := by
  cases v <;> simp [bool?]

theorem text?_eq_some (v : Toml) (s : String) : text? v = some s ↔ v = .string s := by
  cases v <;> simp [text?]

theorem natural?_eq_some (v : Toml) (n : Nat) :
    natural? v = some n ↔ v = .integer n := by
  cases v with
  | integer k =>
      cases k with
      | ofNat m =>
          constructor
          · rintro ⟨⟩
            rfl
          · rintro ⟨⟩
            rfl
      | negSucc m => simp [natural?]
  | _ => simp [natural?]

theorem features?_eq_some (t : Toml) (f : Features) : features? t = some f ↔ FeaturesOf t f := by
  simp only [features?, FeaturesOf, Option.bind_eq_bind, Option.bind_eq_some_iff,
    setting_eq_some bool?_eq_some, Option.pure_def, Option.some.injEq]
  constructor
  · rintro ⟨group, grouped, define, defined, data, kept, rfl⟩
    exact ⟨group, grouped, defined, kept⟩
  · rintro ⟨group, grouped, defined, kept⟩
    exact ⟨group, grouped, _, defined, _, kept, rfl⟩

theorem store?_eq_some (t : Toml) (s : StoreSettings) : store? t = some s ↔ StoreOf t s := by
  simp only [store?, StoreOf, Option.bind_eq_bind, Option.bind_eq_some_iff,
    setting_eq_some text?_eq_some, setting_eq_some natural?_eq_some, Option.pure_def,
    Option.some.injEq]
  constructor
  · rintro ⟨group, grouped, path, located, lock, waits, readLock, readWaits, rfl⟩
    exact ⟨group, grouped, located, waits, readWaits⟩
  · rintro ⟨group, grouped, located, waits, readWaits⟩
    exact ⟨group, grouped, _, located, _, waits, _, readWaits, rfl⟩

theorem ofMembers?_eq_some {document : Toml.Members} :
    ofMembers? document = some c ↔ Of document c := by
  simp only [ofMembers?, Option.bind_eq_bind, Option.bind_eq_some_iff,
    setting_eq_some features?_eq_some, setting_eq_some store?_eq_some, Option.pure_def,
    Option.some.injEq]
  constructor
  · rintro ⟨features, switched, store, placed, rfl⟩
    exact ⟨switched, placed⟩
  · rintro ⟨switched, placed⟩
    exact ⟨_, switched, _, placed, rfl⟩

/-- A text is read as a configuration if that is valid and the one of the text's document. -/
theorem read_eq_ok {s : String} : read s = .ok c ↔
    ∃ document, Toml.read? s = some document ∧ Of document c ∧ c.validate = .ok () := by
  have held : (∃ document, Toml.read? s = some document ∧ Of document c) ↔
      (Toml.read? s).bind ofMembers? = some c := by
    rw [Option.bind_eq_some_iff]
    simp only [ofMembers?_eq_some]
  simp only [← and_assoc, exists_and_right, held]
  rw [read]
  cases (Toml.read? s).bind ofMembers? with
  | none => simp
  | some c' =>
      rw [Option.some.injEq]
      constructor
      · intro accepted
        cases valid : c'.validate with
        | error e =>
            simp only [valid] at accepted
            cases accepted
        | ok done =>
            simp only [valid] at accepted
            cases accepted
            exact ⟨rfl, valid⟩
      · rintro ⟨rfl, valid⟩
        simp only [valid]
        rfl

/-- What a file holds is read as a configuration if its text is. -/
theorem load_eq_ok {d : Disk} {p : Path} : load d p = .ok c ↔
    ∃ text, d.readText p = .ok text ∧ read text = .ok c := by
  rw [load]
  cases d.readText p with
  | error fault => simp
  | ok text => simp

example : read "[store]\nlock_timeout_ms = 7\n" = .ok { store := { lockTimeout := 7 } } := by
  decide +kernel

/-- A configuration comes back from its text, and from any file that could be written. -/
structure ComesBack (c : Config) : Prop where
  text : ∃ text, c.write = .ok text ∧ read text = .ok c
  file : ∀ (p : Path) (h : Host), match (c.save p).run.run h with
    | (.ok (), h') => load h'.disk p = .ok c
    | (.error e, _) => ∃ fault, e = .unwritable fault

/--
Valid configurations come back from their files, and nothing but valid ones does,
whoever has written the file: what it leaves out is at its default.
-/
theorem roundTrip :
    (∀ c : Config, c.validate = .ok () → c.store.lockTimeout ≤ maxWritten →
      c.store.readLockTimeout ≤ maxWritten → c.ComesBack) ∧
    ∀ (d : Disk) (p : Path) (c : Config), load d p = .ok c ↔
      ∃ text document, d.readText p = .ok text ∧ Toml.read? text = some document ∧
        Of document c ∧ c.validate = .ok () := by
  constructor
  · intro c valid writers readers
    exact ⟨exists_read_write valid writers readers, load_of_save valid writers readers⟩
  · intro d p c
    simp only [load_eq_ok, read_eq_ok, exists_and_left]

/-- A path with quotes of both kinds, a backslash, line breaks and a control character. -/
def awkward : Config where
  store :=
    { path := "\n'''\"\"\"\\\r\x01\n"
      lockTimeout := 1
      readLockTimeout := maxWritten }

theorem roundTrip_awkward :
    awkward.validate = .ok () ∧ awkward.ComesBack ∧
      ∃ h, (awkward.save (.ofText "wikivars.toml")).run.run { disk := Disk.empty ["home"] } =
        (.ok (), h) ∧ load h.disk (.ofText "wikivars.toml") = .ok awkward := by
  have valid : awkward.validate = .ok () := by decide +kernel
  have back := roundTrip.1 awkward valid (by decide) (by decide)
  have saved := back.file (.ofText "wikivars.toml") { disk := Disk.empty ["home"] }
  have well : ((awkward.save (.ofText "wikivars.toml")).run.run
      { disk := Disk.empty ["home"] }).1.toOption.isSome = true := by
    decide +kernel
  rcases exists_eq_ok well with ⟨⟨⟩, ran⟩
  rw [ran] at saved
  exact ⟨valid, back, _, ran, saved⟩

end TemplateVars.Config
