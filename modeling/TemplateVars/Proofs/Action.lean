import Mathlib.Order.Defs.Unbundled

/-!
# Actions that can fail

Gateways, hosts and disks share one kind of action, which changes a state and
may end in an error; what it did before the error stays done. Running a
sequence runs its first action and then, if that gave a result, the rest. Two
properties carry over to sequences: that the state afterwards is related to the
state before, in any case or only if the action ends in an error.
-/

namespace TemplateVars.Action

variable {ε σ α β : Type}

theorem bind_eq_ok {x : Except ε α} {f : α → Except ε β} {b : β} :
    x >>= f = .ok b ↔ ∃ a, x = .ok a ∧ f a = .ok b := by
  cases x with
  | error e =>
      constructor
      · intro same
        cases same
      · rintro ⟨a, same, -⟩
        cases same
  | ok a =>
      constructor
      · intro same
        exact ⟨a, rfl, same⟩
      · rintro ⟨a', same, rest⟩
        cases same
        exact rest

theorem exists_eq_ok {ended : Except ε α × σ} (well : ended.1.toOption.isSome = true) :
    ∃ a, ended = (.ok a, ended.2) := by
  rcases ended with ⟨result, s⟩
  cases result with
  | error e => cases well
  | ok a => exact ⟨a, rfl⟩

theorem mapError_eq_ok {ε' : Type} {f : ε → ε'} {x : Except ε α} {a : α} :
    x.mapError f = .ok a ↔ x = .ok a := by
  constructor
  · intro same
    cases x with
    | error e => cases same
    | ok b =>
        cases same
        rfl
  · rintro rfl
    rfl

theorem run_bind (x : ExceptT ε (StateM σ) α) (f : α → ExceptT ε (StateM σ) β) (s : σ) :
    (x >>= f).run.run s =
      match x.run.run s with
      | (.ok a, s') => (f a).run.run s'
      | (.error e, s') => (.error e, s') := by
  rw [ExceptT.run_bind, StateT.run_bind]
  change (match x.run.run s with | (a, s') => _) = _
  split
  rename_i ran
  rw [ran]
  cases ‹Except ε α› <;> rfl

theorem run_bind_of_ok {x : ExceptT ε (StateM σ) α} {s s' : σ} {a : α}
    (ran : x.run.run s = (.ok a, s')) (f : α → ExceptT ε (StateM σ) β) :
    (x >>= f).run.run s = (f a).run.run s' := by
  rw [run_bind, ran]

theorem run_bind_eq_ok {x : ExceptT ε (StateM σ) α} {f : α → ExceptT ε (StateM σ) β} {s t : σ}
    {b : β} :
    (x >>= f).run.run s = (.ok b, t) ↔
      ∃ a s', x.run.run s = (.ok a, s') ∧ (f a).run.run s' = (.ok b, t) := by
  rw [run_bind]
  split
  · rename_i a s' ran
    constructor
    · intro rest
      exact ⟨a, s', ran, rest⟩
    · rintro ⟨a', s'', ran', rest⟩
      rw [ran] at ran'
      cases ran'
      exact rest
  · rename_i e s' ran
    constructor
    · intro failed
      cases failed
    · rintro ⟨a, s'', ran', -⟩
      rw [ran] at ran'
      cases ran'

theorem run_bind_eq_error {x : ExceptT ε (StateM σ) α} {f : α → ExceptT ε (StateM σ) β} {s t : σ}
    {e : ε} :
    (x >>= f).run.run s = (.error e, t) ↔
      x.run.run s = (.error e, t) ∨
        ∃ a s', x.run.run s = (.ok a, s') ∧ (f a).run.run s' = (.error e, t) := by
  rw [run_bind]
  split
  · rename_i a s' ran
    constructor
    · intro rest
      exact Or.inr ⟨a, s', ran, rest⟩
    · rintro (failed | ⟨a', s'', ran', rest⟩)
      · rw [ran] at failed
        cases failed
      · rw [ran] at ran'
        cases ran'
        exact rest
  · rename_i e' s' ran
    constructor
    · intro failed
      cases failed
      exact Or.inl ran
    · rintro (failed | ⟨a', s'', ran', -⟩)
      · rw [ran] at failed
        cases failed
        rfl
      · rw [ran] at ran'
        cases ran'

theorem snd_run_bind_pure (x : ExceptT ε (StateM σ) α) (f : α → β) (s : σ) :
    ((x >>= fun a => pure (f a)).run.run s).2 = (x.run.run s).2 := by
  rw [run_bind]
  split
  · rename_i ran
    rw [ran]
    rfl
  · rename_i ran
    rw [ran]

theorem run_get_bind (f : σ → ExceptT ε (StateM σ) α) (s : σ) :
    (get >>= f).run.run s = (f s).run.run s := rfl

theorem run_lift (result : Except ε α) (s : σ) :
    (ExceptT.mk (pure result) : ExceptT ε (StateM σ) α).run.run s = (result, s) := rfl

theorem run_tryCatch (x : ExceptT ε (StateM σ) α) (handle : ε → ExceptT ε (StateM σ) α) (s : σ) :
    (tryCatch x handle).run.run s =
      match x.run.run s with
      | (.ok a, s') => (.ok a, s')
      | (.error e, s') => (handle e).run.run s' := by
  simp only [tryCatch, tryCatchThe, MonadExceptOf.tryCatch, ExceptT.tryCatch, ExceptT.run_mk,
    StateT.run_bind]
  cases ran : x.run.run s with
  | mk result s' =>
      change StateT.run x s = (result, s') at ran
      rw [ran]
      cases result <;> rfl

/-! ### The state afterwards -/

section Keeps

variable (R : σ → σ → Prop)

/-- Whatever comes of an action, the state afterwards is related to the state before. -/
def Keeps (x : ExceptT ε (StateM σ) α) : Prop := ∀ s, R s (x.run.run s).2

/-- If an action fails, the state afterwards is related to the state before. -/
def FailsWithin (x : ExceptT ε (StateM σ) α) : Prop :=
  ∀ s e s', x.run.run s = (.error e, s') → R s s'

variable {R}

theorem Keeps.failsWithin {x : ExceptT ε (StateM σ) α} (keeps : Keeps R x) : FailsWithin R x := by
  intro s e s' failed
  have related := keeps s
  rw [failed] at related
  exact related

theorem Keeps.of_run {x : ExceptT ε (StateM σ) α} (keeps : Keeps R x) {s s' : σ}
    {result : Except ε α} (ran : x.run.run s = (result, s')) : R s s' := by
  have related := keeps s
  rw [ran] at related
  exact related

theorem FailsWithin.bind_pure {x : ExceptT ε (StateM σ) α} (within : FailsWithin R x)
    (f : α → β) : FailsWithin R (x >>= fun a => pure (f a)) := by
  intro s e s' failed
  rcases run_bind_eq_error.1 failed with failed | ⟨_, _, _, failed⟩
  · exact within s e s' failed
  · cases failed

variable [IsPreorder σ R]

theorem keeps_pure (a : α) : Keeps R (pure a : ExceptT ε (StateM σ) α) :=
  fun s => refl_of R s

theorem keeps_throw (e : ε) : Keeps R (throw e : ExceptT ε (StateM σ) α) :=
  fun s => refl_of R s

theorem keeps_get : Keeps R (get : ExceptT ε (StateM σ) σ) :=
  fun s => refl_of R s

theorem Keeps.bind {x : ExceptT ε (StateM σ) α} {f : α → ExceptT ε (StateM σ) β}
    (first : Keeps R x) (rest : ∀ a, Keeps R (f a)) : Keeps R (x >>= f) := by
  intro s
  rw [run_bind]
  split
  · rename_i ran
    exact trans_of R (first.of_run ran) (rest _ _)
  · rename_i ran
    exact first.of_run ran

theorem Keeps.tryCatch {x : ExceptT ε (StateM σ) α} {handle : ε → ExceptT ε (StateM σ) α}
    (first : Keeps R x) (rest : ∀ e, Keeps R (handle e)) :
    Keeps R (MonadExcept.tryCatch x handle) := by
  intro s
  rw [run_tryCatch]
  split
  · rename_i ran
    exact first.of_run ran
  · rename_i ran
    exact trans_of R (first.of_run ran) (rest _ _)

theorem Keeps.bind_failsWithin {x : ExceptT ε (StateM σ) α} {f : α → ExceptT ε (StateM σ) β}
    (first : Keeps R x) (rest : ∀ a, FailsWithin R (f a)) : FailsWithin R (x >>= f) := by
  intro s e s' failed
  rcases run_bind_eq_error.1 failed with failed | ⟨a, middle, ran, failed⟩
  · exact first.failsWithin s e s' failed
  · exact trans_of R (first.of_run ran) (rest a middle e s' failed)

end Keeps

end TemplateVars.Action
