import TemplateVars.Disk.Basic
import TemplateVars.Proofs.Action
import TemplateVars.Proofs.SortedMap

/-!
# Disks that only gain

Making directories and opening a file leaves everything that was on a disk where
it was, with the identity and the bytes that it had; directories may be new, and
an empty file of the name that was opened. Operations that replace or remove a
file leave it all, too, if they fail. A path that led somewhere before leads
there afterwards.
-/

namespace TemplateVars

/-- The bytes of a text are read as that text. -/
theorem fromUTF8?_toUTF8 (s : String) : String.fromUTF8? s.toUTF8 = some s := by
  rw [String.toUTF8_eq_toByteArray, String.fromUTF8?, dif_pos s.isValidUTF8]
  rfl

namespace Disk

/-- What was on a disk is still there; only directories and empty files of a name are new. -/
structure Gains (name : String) (d d' : Disk) : Prop where
  here_eq : d'.here = d.here
  kept : ∀ place e, d.entry? place = some e → d'.entry? place = some e
  gained : ∀ place e, d.entry? place = none → d'.entry? place = some e →
    e = .directory ∨ place.getLast? = some name ∧ ∃ id, e = .file id .empty

variable {name : String}

instance : IsPreorder Disk (Gains name) where
  refl d :=
    { here_eq := rfl
      kept := fun _ _ found => found
      gained := by
        intro place e absent found
        rw [absent] at found
        cases found }
  trans _ d _ first second :=
    { here_eq := second.here_eq.trans first.here_eq
      kept := fun place e found => second.kept place e (first.kept place e found)
      gained := by
        intro place e absent found
        cases middle : d.entry? place with
        | none => exact second.gained place e middle found
        | some e' =>
            have later := second.kept place e' middle
            rw [found] at later
            cases later
            exact first.gained place e absent middle }

theorem entry?_put (d : Disk) (place other : Place) (e : Entry) :
    Disk.entry? (d.put place e) other = if other = place then some e else d.entry? other :=
  SortedMap.find?_insert ..

theorem entry?_putFile (d : Disk) (place other : Place) (content : ByteArray) :
    Disk.entry? (d.putFile place content) other =
      if other = place then some (.file d.nextFile content) else d.entry? other :=
  SortedMap.find?_insert ..

theorem eq_directory_of_entry?_empty {here place : Place} {e : Entry}
    (found : Disk.entry? (empty here) place = some e) : e = .directory := by
  rcases List.mem_map.1 (SortedMap.kind.mem_of_find?_ofList found) with ⟨n, -, same⟩
  cases same
  rfl

theorem gains_of_entry? {d d' : Disk} (here : d'.here = d.here) {place : Place} {e : Entry}
    (absent : d.entry? place = none)
    (plain : e = .directory ∨ place.getLast? = some name ∧ ∃ id, e = .file id .empty)
    (entries : ∀ other, d'.entry? other = if other = place then some e else d.entry? other) :
    Gains name d d' where
  here_eq := here
  kept := by
    intro other before found
    have distinct : other ≠ place := by
      rintro rfl
      rw [absent] at found
      cases found
    rw [entries, if_neg distinct, found]
  gained := by
    intro other after missing found
    rw [entries] at found
    split at found
    · rename_i same
      cases found
      rwa [same]
    · rw [missing] at found
      cases found

/-! ### Paths -/

section Routes

variable {d d' : Disk} (here : d'.here = d.here)
  (directories : ∀ q, d.entry? q = some .directory → d'.entry? q = some .directory)

include directories

theorem descend_of_directories {q q' : Place} {step : String}
    (descended : d.descend q step = .ok q') : d'.descend q step = .ok q' := by
  unfold descend at descended ⊢
  cases found : d.entry? q with
  | none => simp [found] at descended
  | some e =>
      cases e with
      | file id content => simp [found] at descended
      | directory =>
          rw [directories q found]
          rwa [found] at descended

theorem foldlM_descend_of_directories {steps : List String} {q q' : Place}
    (descended : steps.foldlM d.descend q = .ok q') : steps.foldlM d'.descend q = .ok q' := by
  induction steps generalizing q with
  | nil => exact descended
  | cons step steps ih =>
      rw [List.foldlM_cons] at descended ⊢
      cases first : d.descend q step with
      | error fault =>
          rw [first] at descended
          cases descended
      | ok middle =>
          rw [first] at descended
          rw [descend_of_directories directories first]
          exact ih descended

include here

/-- A path leads where it led as long as no directory is missing. -/
theorem locate_of_directories {p : Path} {place : Place} (located : d.locate p = .ok place) :
    d'.locate p = .ok place := by
  unfold locate follow at located ⊢
  have start : d'.start p = d.start p := by
    unfold Disk.start
    rw [here]
  rw [start]
  split at located
  · cases located
  · rename_i named
    rw [if_neg named]
    split at located
    · cases located
    · rename_i clean
      rw [if_neg clean]
      split at located
      · cases located
      · rename_i short
        rw [if_neg short]
        exact foldlM_descend_of_directories directories located

end Routes

theorem Gains.locate {d d' : Disk} (gains : Gains name d d') {p : Path} {place : Place}
    (located : d.locate p = .ok place) : d'.locate p = .ok place :=
  locate_of_directories gains.here_eq (fun q found => gains.kept q _ found) located

/-- Wherever a path leads, it leads to a place of a name. -/
def LeadsTo (p : Path) (name : String) : Prop :=
  ∀ d place, locate d p = .ok place → place.getLast? = some name

theorem getLast?_descend {d : Disk} {q q' : Place} {step : String} (proper : step ≠ "")
    (noDot : step ≠ ".") (noDots : step ≠ "..") (descended : d.descend q step = .ok q') :
    q'.getLast? = some step := by
  unfold descend at descended
  split at descended
  · cases descended
  · cases descended
  · rw [if_neg (not_or.2 ⟨proper, noDot⟩), if_neg noDots] at descended
    split at descended
    · cases descended
    · cases descended
      exact List.getLast?_concat ..

theorem leadsTo_child (p : Path) (proper : name ≠ "") (noDot : name ≠ ".")
    (noDots : name ≠ "..") : LeadsTo (p.child name) name := by
  intro d place located
  unfold locate follow at located
  split at located
  · cases located
  · split at located
    · cases located
    · split at located
      · cases located
      · unfold Path.child at located
        rw [List.foldlM_append] at located
        rcases Action.bind_eq_ok.1 located with ⟨q, -, last⟩
        rw [List.foldlM_cons] at last
        rcases Action.bind_eq_ok.1 last with ⟨q', descended, done⟩
        cases done
        exact getLast?_descend proper noDot noDots descended

theorem readEntry_eq_ok {d : Disk} {p : Path} {e : Entry} :
    d.readEntry p = .ok e ↔ ∃ place, d.locate p = .ok place ∧ d.entry? place = some e := by
  rw [readEntry, Action.bind_eq_ok]
  apply exists_congr
  intro place
  apply and_congr_right
  intro located
  cases found : d.entry? place <;> simp

theorem Gains.readEntry {d d' : Disk} (gains : Gains name d d') {p : Path} {e : Entry}
    (found : d.readEntry p = .ok e) : d'.readEntry p = .ok e := by
  rcases readEntry_eq_ok.1 found with ⟨place, located, present⟩
  exact readEntry_eq_ok.2 ⟨place, gains.locate located, gains.kept place e present⟩

theorem readText_eq_ok {d : Disk} {p : Path} {text : String} :
    d.readText p = .ok text ↔
      ∃ id content, d.readEntry p = .ok (.file id content) ∧
        String.fromUTF8? content = some text := by
  rw [readText, Action.bind_eq_ok]
  constructor
  · rintro ⟨e, found, read⟩
    cases e with
    | directory => cases read
    | file id content =>
        refine ⟨id, content, found, ?_⟩
        cases decoded : String.fromUTF8? content <;> simp_all
  · rintro ⟨id, content, found, decoded⟩
    refine ⟨_, found, ?_⟩
    simp [decoded]

theorem Gains.readText {d d' : Disk} (gains : Gains name d d') {p : Path} {text : String}
    (read : d.readText p = .ok text) : d'.readText p = .ok text := by
  rcases readText_eq_ok.1 read with ⟨id, content, found, decoded⟩
  exact readText_eq_ok.2 ⟨id, content, gains.readEntry found, decoded⟩

theorem pathExists_iff {d : Disk} {p : Path} :
    d.pathExists p = true ↔ ∃ e, d.readEntry p = .ok e := by
  unfold pathExists
  cases d.readEntry p <;> simp

end Disk

end TemplateVars
