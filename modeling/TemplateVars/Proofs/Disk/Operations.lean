import TemplateVars.Proofs.Disk.Gains

/-!
# Operations on disks

What the operations do to a disk: the ones that prepare for a write only gain,
and the ones that replace or remove a file touch no directory and nothing but
the place that their path leads to.
-/

namespace TemplateVars.Disk

open TemplateVars.Action

variable {name : String}

theorem run_makeDirectory (p : Path) (d : Disk) :
    (makeDirectory p).run.run d =
      match d.follow p p.beforeSlashes with
      | .error fault => (.error fault, d)
      | .ok place =>
        match d.entry? place with
        | some _ => (.error .alreadyExists, d)
        | none => (.ok (), d.put place .directory) := by
  refine (run_bind_of_ok rfl _).trans ((run_bind ..).trans ?_)
  rw [run_lift]
  cases d.follow p p.beforeSlashes with
  | error fault => rfl
  | ok place =>
      simp only
      cases d.entry? place <;> rfl

theorem run_openFile (p : Path) (d : Disk) :
    (openFile p).run.run d =
      if p.endsInSlash then
        match d.follow p (p.beforeSlashes.dropLast ++ ["."]) with
        | .error fault => (.error fault, d)
        | .ok _ => (.error .isDirectory, d)
      else
        match d.locate p with
        | .error fault => (.error fault, d)
        | .ok place =>
          match d.entry? place with
          | some .directory => (.error .isDirectory, d)
          | some (.file id _) => (.ok id, d)
          | none => (.ok d.nextFile, d.putFile place .empty) := by
  refine (run_bind_of_ok rfl _).trans ?_
  split
  · refine (run_bind ..).trans ?_
    rw [run_lift]
    cases d.follow p (p.beforeSlashes.dropLast ++ ["."]) <;> rfl
  · refine (run_bind ..).trans ?_
    rw [run_lift]
    cases d.locate p with
    | error fault => rfl
    | ok place =>
        simp only
        rcases d.entry? place with _ | _ | _ <;> rfl

theorem run_replaceFile (p : Path) (content : ByteArray) (d : Disk) :
    (replaceFile p content).run.run d =
      match d.locate p with
      | .error fault => (.error fault, d)
      | .ok place =>
        if d.entry? place = some .directory then (.error .isDirectory, d)
        else (.ok (), d.putFile place content) := by
  refine (run_bind_of_ok rfl _).trans ((run_bind ..).trans ?_)
  rw [run_lift]
  cases d.locate p with
  | error fault => rfl
  | ok place =>
      simp only
      split <;> rfl

theorem run_removeFile (p : Path) (d : Disk) :
    (removeFile p).run.run d =
      match d.locate p with
      | .error fault => (.error fault, d)
      | .ok place =>
        match d.entry? place with
        | none => (.error .notFound, d)
        | some .directory => (.error .isDirectory, d)
        | some (.file _ _) => (.ok (), { d with entries := d.entries.erase place }) := by
  refine (run_bind_of_ok rfl _).trans ((run_bind ..).trans ?_)
  rw [run_lift]
  cases d.locate p with
  | error fault => rfl
  | ok place =>
      simp only
      rcases d.entry? place with _ | _ | _ <;> rfl

/-! ### What only gains -/

theorem keeps_makeDirectory (p : Path) : Keeps (Gains name) (makeDirectory p) := by
  intro d
  rw [run_makeDirectory]
  split
  · exact refl_of (Gains name) d
  · split
    · exact refl_of (Gains name) d
    · rename_i absent
      exact gains_of_entry? rfl absent (Or.inl rfl) fun other => entry?_put ..

theorem keeps_ensureDirectory (p : Path) : Keeps (Gains name) (ensureDirectory p) := by
  refine (keeps_makeDirectory p).tryCatch fun fault => keeps_get.bind fun d => ?_
  split
  · exact keeps_pure _
  · exact keeps_throw _

theorem keeps_makeDirectoriesUp (back : List String) :
    Keeps (Gains name) (makeDirectoriesUp back) := by
  induction back using makeDirectoriesUp.induct with
  | case1 =>
      rw [makeDirectoriesUp]
      exact keeps_pure _
  | case2 back some ih =>
      rw [makeDirectoriesUp, dif_neg some]
      refine (keeps_ensureDirectory _).tryCatch fun fault => ?_
      split
      · exact keeps_throw _
      · exact ih.bind fun _ => keeps_ensureDirectory _

theorem keeps_makeDirectories (p : Path) : Keeps (Gains name) (makeDirectories p) := by
  unfold makeDirectories
  split
  · exact keeps_pure _
  · exact keeps_makeDirectoriesUp _

theorem keeps_openFile {p : Path} (leads : LeadsTo p name) :
    Keeps (Gains name) (openFile p) := by
  intro d
  rw [run_openFile]
  split
  · split <;> exact refl_of (Gains name) d
  · split
    · exact refl_of (Gains name) d
    · rename_i located
      split
      · exact refl_of (Gains name) d
      · exact refl_of (Gains name) d
      · rename_i absent
        exact gains_of_entry? rfl absent (Or.inr ⟨leads _ _ located, _, rfl⟩) fun other =>
          entry?_putFile ..

theorem failsWithin_replaceFile (p : Path) (content : ByteArray) :
    FailsWithin (Gains name) (replaceFile p content) := by
  intro d fault d' failed
  rw [run_replaceFile] at failed
  split at failed
  · cases failed
    exact refl_of (Gains name) d
  · split at failed
    · cases failed
      exact refl_of (Gains name) d
    · cases failed

theorem failsWithin_removeFile (p : Path) : FailsWithin (Gains name) (removeFile p) := by
  intro d fault d' failed
  rw [run_removeFile] at failed
  split at failed
  · cases failed
    exact refl_of (Gains name) d
  · split at failed
    · cases failed
      exact refl_of (Gains name) d
    · cases failed
      exact refl_of (Gains name) d
    · cases failed

/-! ### What replaces or removes a file -/

/-- All directories are still there, and so are all files of a name. -/
structure Spares (name : String) (d d' : Disk) : Prop where
  here_eq : d'.here = d.here
  kept : ∀ place e, d.entry? place = some e → e = .directory ∨ place.getLast? = some name →
    d'.entry? place = some e

instance : IsPreorder Disk (Spares name) where
  refl _ := ⟨rfl, fun _ _ found _ => found⟩
  trans _ _ _ first second :=
    ⟨second.here_eq.trans first.here_eq, fun place e found spared =>
      second.kept place e (first.kept place e found spared) spared⟩

theorem Gains.spares {d d' : Disk} (gains : Gains name d d') : Spares name d d' :=
  ⟨gains.here_eq, fun place e found _ => gains.kept place e found⟩

theorem Spares.locate {d d' : Disk} (spares : Spares name d d') {p : Path} {place : Place}
    (located : d.locate p = .ok place) : d'.locate p = .ok place :=
  locate_of_directories spares.here_eq (fun q found => spares.kept q _ found (Or.inl rfl)) located

/-- Nothing changes but a place of another name where no directory is. -/
theorem spares_of_entry? {d d' : Disk} (here : d'.here = d.here) {place : Place} {other : String}
    (last : place.getLast? = some other) (apart : other ≠ name)
    (noDirectory : d.entry? place ≠ some .directory)
    (entries : ∀ q, q ≠ place → d'.entry? q = d.entry? q) : Spares name d d' where
  here_eq := here
  kept := by
    intro q e found spared
    rw [entries, found]
    rintro rfl
    rcases spared with rfl | named
    · exact noDirectory found
    · rw [last, Option.some.injEq] at named
      exact apart named

theorem entry?_erase (d : Disk) (place other : Place) :
    Disk.entry? { d with entries := d.entries.erase place } other =
      if other = place then none else d.entry? other := SortedMap.find?_erase ..

section Files

variable {p : Path} {other : String} (leads : LeadsTo p other) (apart : other ≠ name)

include leads apart

theorem keeps_replaceFile (content : ByteArray) : Keeps (Spares name) (replaceFile p content) := by
  intro d
  rw [run_replaceFile]
  split
  · exact refl_of (Spares name) d
  · rename_i place located
    split
    · exact refl_of (Spares name) d
    · rename_i noDirectory
      refine spares_of_entry? rfl (leads d place located) apart noDirectory fun q different => ?_
      rw [entry?_putFile, if_neg different]

theorem keeps_removeFile : Keeps (Spares name) (removeFile p) := by
  intro d
  rw [run_removeFile]
  split
  · exact refl_of (Spares name) d
  · rename_i place located
    split
    · exact refl_of (Spares name) d
    · exact refl_of (Spares name) d
    · rename_i id content file
      refine spares_of_entry? rfl (leads d place located) apart (by simp [file])
        fun q different => ?_
      rw [entry?_erase, if_neg different]

end Files

/-- A file is put where its path leads, and leads afterwards. -/
theorem of_run_replaceFile {p : Path} {content : ByteArray} {d d' : Disk}
    (ran : (replaceFile p content).run.run d = (.ok (), d')) :
    ∃ place, d'.locate p = .ok place ∧ d' = d.putFile place content := by
  rw [run_replaceFile] at ran
  split at ran
  · cases ran
  · rename_i place located
    split at ran
    · cases ran
    · rename_i noDirectory
      cases ran
      refine ⟨place, ?_, rfl⟩
      have here : (d.putFile place content).here = d.here := rfl
      refine locate_of_directories here (fun q found => ?_) located
      have distinct : q ≠ place := by
        rintro rfl
        exact noDirectory found
      rw [entry?_putFile, if_neg distinct, found]

theorem readEntry_of_replaceFile {p : Path} {content : ByteArray} {d d' : Disk}
    (ran : (replaceFile p content).run.run d = (.ok (), d')) :
    d'.readEntry p = .ok (.file d.nextFile content) := by
  rcases of_run_replaceFile ran with ⟨place, located, rfl⟩
  exact readEntry_eq_ok.2 ⟨place, located, by rw [entry?_putFile, if_pos rfl]⟩

/-- A file that has been opened stands where its path leads. -/
theorem of_run_openFile {p : Path} {id : FileId} {d d' : Disk}
    (ran : (openFile p).run.run d = (.ok id, d')) :
    ∃ place content, d'.locate p = .ok place ∧ d'.entry? place = some (.file id content) := by
  rw [run_openFile] at ran
  split at ran
  · split at ran
    · cases ran
    · cases ran
  · split at ran
    · cases ran
    · rename_i place located
      split at ran
      · cases ran
      · rename_i own content found
        cases ran
        exact ⟨place, content, located, found⟩
      · rename_i absent
        cases ran
        refine ⟨place, .empty, ?_, by rw [entry?_putFile, if_pos rfl]⟩
        have here : (d.putFile place .empty).here = d.here := rfl
        refine locate_of_directories here (fun q found => ?_) located
        have distinct : q ≠ place := by
          rintro rfl
          rw [absent] at found
          cases found
        rw [entry?_putFile, if_neg distinct, found]

/-- What is written to a file is what its path leads to. -/
theorem readEntry_of_writeFile {p : Path} {content : ByteArray} {d d' : Disk}
    (ran : (writeFile p content).run.run d = (.ok (), d')) :
    ∃ id, d'.readEntry p = .ok (.file id content) := by
  rcases run_bind_eq_ok.1 ran with ⟨id, d₁, opened, ran⟩
  rcases of_run_openFile opened with ⟨place, before, located, found⟩
  rw [run_get_bind] at ran
  rcases run_bind_eq_ok.1 ran with ⟨place', d₂, again, ran⟩
  rw [run_lift, located] at again
  cases again
  cases ran
  have here : (d₁.put place (.file id content)).here = d₁.here := rfl
  have kept : (d₁.put place (.file id content)).locate p = .ok place := by
    refine locate_of_directories here (fun q directory => ?_) located
    have distinct : q ≠ place := by
      rintro rfl
      rw [found] at directory
      cases directory
    rw [entry?_put, if_neg distinct, directory]
  exact ⟨id, readEntry_eq_ok.2 ⟨place, kept, by rw [entry?_put, if_pos rfl]⟩⟩

theorem pathExists_of_replaceFile {p : Path} {content : ByteArray} {d d' : Disk}
    (ran : (replaceFile p content).run.run d = (.ok (), d')) : d'.pathExists p = true :=
  pathExists_iff.2 ⟨_, readEntry_of_replaceFile ran⟩

/-- A file is removed from where its path leads, and leads afterwards. -/
theorem of_run_removeFile {p : Path} {d d' : Disk}
    (ran : (removeFile p).run.run d = (.ok (), d')) :
    ∃ place, d'.locate p = .ok place ∧ d' = { d with entries := d.entries.erase place } := by
  rw [run_removeFile] at ran
  split at ran
  · cases ran
  · rename_i place located
    split at ran
    · cases ran
    · cases ran
    · rename_i id content file
      cases ran
      refine ⟨place, ?_, rfl⟩
      have here : ({ d with entries := d.entries.erase place } : Disk).here = d.here := rfl
      refine locate_of_directories here (fun q found => ?_) located
      have distinct : q ≠ place := by
        rintro rfl
        rw [file] at found
        cases found
      rw [entry?_erase, if_neg distinct, found]

theorem readEntry_of_removeFile {p : Path} {d d' : Disk}
    (ran : (removeFile p).run.run d = (.ok (), d')) : d'.readEntry p = .error .notFound := by
  rcases of_run_removeFile ran with ⟨place, located, rfl⟩
  simp [readEntry, bind, Except.bind, located, entry?_erase]

theorem pathExists_of_removeFile {p : Path} {d d' : Disk}
    (ran : (removeFile p).run.run d = (.ok (), d')) : d'.pathExists p = false := by
  rw [pathExists, readEntry_of_removeFile ran]

/-! ### What is left alone -/

theorem entry?_of_replaceFile {p : Path} {content : ByteArray} {d d' : Disk}
    (ran : (replaceFile p content).run.run d = (.ok (), d')) {place : Place}
    (away : d.locate p ≠ .ok place) : d'.entry? place = d.entry? place := by
  rw [run_replaceFile] at ran
  split at ran
  · cases ran
  · rename_i own located
    split at ran
    · cases ran
    · cases ran
      rw [entry?_putFile, if_neg]
      rintro rfl
      exact away located

theorem entry?_of_removeFile {p : Path} {d d' : Disk}
    (ran : (removeFile p).run.run d = (.ok (), d')) {place : Place}
    (away : d.locate p ≠ .ok place) : d'.entry? place = d.entry? place := by
  rw [run_removeFile] at ran
  split at ran
  · cases ran
  · rename_i own located
    split at ran
    · cases ran
    · cases ran
    · cases ran
      rw [entry?_erase, if_neg]
      rintro rfl
      exact away located

end TemplateVars.Disk
