import TemplateVars.Lock
import TemplateVars.Proofs.Disk.Operations

/-!
# Working under a lock

Taking a lock changes a disk by what it takes to open the lock file, and letting
go of it changes nothing there. What is done under a lock therefore decides what
becomes of the disk.
-/

namespace TemplateVars.Host

open TemplateVars.Action

/-- What was on the disk is still there; only directories and empty files of a name are new. -/
def Gains (name : String) (h h' : Host) : Prop := Disk.Gains name h.disk h'.disk

variable {name : String}

instance : IsPreorder Host (Gains name) where
  refl h := refl_of (Disk.Gains name) h.disk
  trans _ _ _ first second := trans_of (Disk.Gains name) first second

variable {ε α : Type}

theorem run_onDisk (describe : DiskFault → ε) (act : DiskAction α) (h : Host) :
    (onDisk describe act).run.run h =
      ((act.run.run h.disk).1.mapError describe, { h with disk := (act.run.run h.disk).2 }) := rfl

theorem keeps_onDisk {act : DiskAction α} (keeps : Keeps (Disk.Gains name) act)
    (describe : DiskFault → ε) : Keeps (Gains name) (onDisk describe act) :=
  fun h => keeps h.disk

theorem failsWithin_onDisk {act : DiskAction α} (within : FailsWithin (Disk.Gains name) act)
    (describe : DiskFault → ε) : FailsWithin (Gains name) (onDisk describe act) := by
  intro h e h' failed
  rw [run_onDisk] at failed
  cases ran : act.run.run h.disk with
  | mk result d =>
      rw [ran] at failed
      cases result with
      | error fault =>
          cases failed
          exact within h.disk fault d ran
      | ok a => cases failed

theorem run_onDisk_eq_ok {describe : DiskFault → ε} {act : DiskAction α} {h h' : Host} {a : α} :
    (onDisk describe act).run.run h = (.ok a, h') ↔
      ∃ d, act.run.run h.disk = (.ok a, d) ∧ h' = { h with disk := d } := by
  rw [run_onDisk, Prod.mk.injEq, mapError_eq_ok]
  constructor
  · rintro ⟨ran, rfl⟩
    exact ⟨_, Prod.ext ran rfl, rfl⟩
  · rintro ⟨d, ran, rfl⟩
    rw [ran]
    exact ⟨rfl, rfl⟩

theorem keeps_acquire {path : Path} (leads : Disk.LeadsTo path name) (mode : LockMode)
    (purpose : String) : Keeps (Gains name) (acquire path mode purpose) := by
  refine (keeps_onDisk (Disk.keeps_makeDirectories _) _).bind fun _ => ?_
  refine (keeps_onDisk (Disk.keeps_openFile leads) _).bind fun file => ?_
  intro h
  rw [run_get_bind]
  split <;> exact refl_of (Gains name) h

/-- The host once a lock is let go of. -/
def released (h : Host) (g : Guard) : Host :=
  { h with guards := h.guards.filter fun other => other.number != g.number }

@[simp]
theorem disk_released (h : Host) (g : Guard) : (h.released g).disk = h.disk := rfl

/-- What is done under a lock is done once the lock is had, which is let go of afterwards. -/
theorem run_withLock (describe : LockError → ε) (path : Path) (mode : LockMode)
    (purpose : String) (act : HostAction ε α) (h : Host) :
    (withLock describe path mode purpose act).run.run h =
      match (acquire path mode purpose).run.run h with
      | (.error e, h') => (.error (describe e), h')
      | (.ok g, h') => ((act.run.run h').1, released (act.run.run h').2 g) := by
  have adapted : ((acquire path mode purpose).adapt describe).run.run h =
      (((acquire path mode purpose).run.run h).1.mapError describe,
        ((acquire path mode purpose).run.run h).2) := rfl
  refine (run_bind ..).trans ?_
  rw [adapted]
  cases acquired : (acquire path mode purpose).run.run h with
  | mk result h' =>
      cases result with
      | error e => rfl
      | ok g =>
          simp only [Except.mapError]
          refine (run_bind ..).trans ?_
          rw [run_tryCatch, run_bind act]
          cases ran : act.run.run h' with
          | mk result h'' => cases result <;> rfl

section UnderLock

variable {describe : LockError → ε} {path : Path} {mode : LockMode} {purpose : String}
  {act : HostAction ε α} (leads : Disk.LeadsTo path name)

include leads

theorem keeps_withLock (keeps : Keeps (Gains name) act) :
    Keeps (Gains name) (withLock describe path mode purpose act) := by
  intro h
  have acquires := keeps_acquire leads mode purpose h
  rw [run_withLock]
  split
  · rename_i acquired
    rwa [acquired] at acquires
  · rename_i g h' acquired
    rw [acquired] at acquires
    exact trans_of (Gains name) acquires (keeps h')

theorem failsWithin_withLock (within : FailsWithin (Gains name) act) :
    FailsWithin (Gains name) (withLock describe path mode purpose act) := by
  intro h e h' failed
  have acquires := keeps_acquire leads mode purpose h
  rw [run_withLock] at failed
  split at failed
  · rename_i acquired
    rw [acquired] at acquires
    cases failed
    exact acquires
  · rename_i g h₁ acquired
    rw [acquired] at acquires
    cases ran : act.run.run h₁ with
    | mk result h₂ =>
        rw [ran] at failed
        cases failed
        exact trans_of (Gains name) acquires (within h₁ e h₂ ran)

theorem of_run_withLock {h h' : Host} {a : α} :
    (withLock describe path mode purpose act).run.run h = (.ok a, h') →
      ∃ g h₁ h₂, Gains name h h₁ ∧ act.run.run h₁ = (.ok a, h₂) ∧ h' = h₂.released g := by
  intro done
  have acquires := keeps_acquire leads mode purpose h
  rw [run_withLock] at done
  split at done
  · cases done
  · rename_i g h₁ acquired
    rw [acquired] at acquires
    cases ran : act.run.run h₁ with
    | mk result h₂ =>
        rw [ran] at done
        cases done
        exact ⟨g, h₁, h₂, acquires, ran, rfl⟩

end UnderLock

end TemplateVars.Host
