import TemplateVars.Proofs.Action
import TemplateVars.Proofs.Saved.Collection
import TemplateVars.Render.Engine

/-!
# Flushing over any gateway

Whatever the gateway does, flushing takes the gathered collection out of the
stash, hands it over for the page and its revision, and leaves the stash
without it. All the rest is up to the gateway.
-/

namespace TemplateVars

namespace Stash

@[simp]
theorem get?_put (stash : Stash) (key : String) (c : SetCollection) :
    (stash.put key c).get? key = some c := by
  simp [put, get?]

@[simp]
theorem get?_take (stash : Stash) (key : String) :
    (stash.take key).2.get? key = none := by
  simp [take, get?]

/-- Taking something out of a stash leaves it as it is exactly when there was nothing. -/
theorem take_eq_self_iff (stash : Stash) (key : String) :
    (stash.take key).2 = stash ↔ stash.get? key = none := by
  constructor
  · intro same
    rw [← same, get?_take]
  · intro absent
    have same : stash.entries.erase key = stash.entries := by
      apply SortedMap.ext_find?
      intro other
      rw [SortedMap.find?_erase]
      split
      · rename_i own
        rw [own]
        exact absent.symm
      · rfl
    simp [take, same]

/-- What is handed over for a page when a stash is flushed. -/
def handedOver (stash : Stash) (page : PageId) (rev : RevId) : Option SetCollection :=
  (stash.get? savedSetsKey).map fun c => { c with pageId := page, revId := rev }

end Stash

namespace Engine

variable {σ : Type} {e : Engine σ}

theorem flush_of_disabled (off : e.features.data = false) (stash : Stash) (page : PageId)
    (rev : RevId) (now : Timestamp) (state : σ) :
    e.flush stash page rev now state = (.ok .disabled, stash, state) := by
  simp [flush, off]

theorem flush_of_enabled (on : e.features.data = true) (stash : Stash) (page : PageId)
    (rev : RevId) (now : Timestamp) (state : σ) :
    e.flush stash page rev now state =
      (((flush.persist e page now (stash.handedOver page rev)).run.run state).1,
        (stash.take savedSetsKey).2,
        ((flush.persist e page now (stash.handedOver page rev)).run.run state).2) := by
  simp only [flush, on, Bool.not_true, Bool.false_eq_true, if_false]
  rfl

theorem handedOver_of_taken (stash : Stash) (page : PageId) (rev : RevId) :
    (stash.take savedSetsKey).2.handedOver page rev = none := by
  simp [Stash.handedOver]

/-- A flush only fails as loading or saving does. -/
theorem failsWithin_persist {R : σ → σ → Prop} [IsPreorder σ R] {page : PageId} {now : Timestamp}
    (loads : Action.Keeps R (e.gateway.loadSets page))
    (saves : ∀ p, Action.FailsWithin R (e.gateway.savePlan p now)) (new : Option SetCollection) :
    Action.FailsWithin R (flush.persist e page now new) := by
  refine loads.bind_failsWithin fun old => ?_
  simp only
  split
  · exact (Action.keeps_pure _).failsWithin
  · exact (saves _).bind_pure _

/-- A flush that succeeds has loaded the page, and has saved its plan unless that is empty. -/
theorem of_run_persist {page : PageId} {now : Timestamp} {new : Option SetCollection}
    {s s' : σ} {outcome : FlushOutcome}
    (ran : (flush.persist e page now new).run.run s = (.ok outcome, s')) :
    ∃ old s₁, (e.gateway.loadSets page).run.run s = (.ok old, s₁) ∧
      ((Plan.between old new).isEmpty = true ∧ s' = s₁ ∨
        (Plan.between old new).isEmpty = false ∧
          ∃ o, (e.gateway.savePlan (Plan.between old new) now).run.run s₁ = (.ok o, s')) := by
  rcases Action.run_bind_eq_ok.1 ran with ⟨old, s₁, loaded, rest⟩
  refine ⟨old, s₁, loaded, ?_⟩
  simp only at rest
  split at rest
  · rename_i nothing
    cases rest
    exact Or.inl ⟨nothing, rfl⟩
  · rename_i busy
    rcases Action.run_bind_eq_ok.1 rest with ⟨o, s₂, saved, done⟩
    cases done
    exact Or.inr ⟨by simpa using busy, o, saved⟩

end Engine

end TemplateVars
