import TemplateVars.Proofs.Scope.Update
import TemplateVars.Render.Engine

/-!
# The calls of a host

A host opens frames, sets and copies variables, calls verbs and loads what is
stored. Each of these calls changes one frame of the tree at most, its target,
and is an update of that frame.
-/

namespace TemplateVars

open TreeUpdate

namespace Tree

variable {t t' : Tree} {id : FrameId}

theorem updates_respell {existing name : String}
    (ok : Yields (VerbCall.respell t id existing name) t') : t.Updates id t' := by
  simp only [VerbCall.respell, yields_bind, yields_lift, exists_eq_left'] at ok
  split at ok
  · rename_i node text bound known
    rw [yields_ofExcept] at ok
    cases erased : t.modifyFrame id (·.erase (.named existing)) with
    | error e =>
        rw [erased] at ok
        cases ok
    | ok t₁ =>
        rw [erased] at ok
        have first : t.Updates id t₁ :=
          updates_modifyFrame (fun f _ _ => ⟨_, f.rearranges_erase (.named existing)⟩) erased
        change t₁.bind id (Key.parse name) node text = .ok t' at ok
        refine ⟨?_, ?_, ?_, ?_, ?_, (expander_bind ok).trans first.expander_eq⟩
        · intro coherent
          rw [value_text coherent, bound] at known
          have own : text = t₁.expander.textOf node := by
            rw [first.expander_eq]
            exact (Option.some.inj known).symm
          rw [own] at ok
          exact (first.coherent coherent).bind ok
        · intro separate
          exact (first.separate separate).bind ok
        · intro separate
          exact (first.confined separate).trans ((first.separate separate).confined_bind ok)
        · intro separate inRange
          exact (first.inRange separate inRange).bind (first.separate separate).valid
            (Key.inRange_parse name) ok
        · intro separate nested
          exact (first.nested separate nested).bind (first.separate separate).valid ok
  · cases yields_pure.1 ok
    rfl

theorem updates_define {call : VerbCall} {changed : Bool}
    (ok : Yields (call.runDefine t id) (changed, t')) : t.Updates id t' := by
  rw [VerbCall.runDefine] at ok
  split at ok
  · cases yields_pure.1 ok
    rfl
  · split at ok
    · simp only [yields_map, Prod.mk.injEq, exists_eq_right_right] at ok
      exact (rebinds_set ok.1).toUpdates
    · cases yields_pure.1 ok
      rfl
    · split at ok
      · simp only [yields_map, Prod.mk.injEq, exists_eq_right_right] at ok
        exact updates_respell ok.1
      · cases yields_pure.1 ok
        rfl

theorem updates_preview {call : VerbCall} {changed : Bool}
    (ok : Yields (call.runPreview t id) (changed, t')) : t.Updates id t' := by
  rw [VerbCall.runPreview] at ok
  split at ok
  · exact updates_define ok
  · cases yields_pure.1 ok
    rfl

theorem updates_local {call : VerbCall} {changed : Bool}
    (ok : Yields (call.runLocal t id) (changed, t')) : t.Updates id t' := by
  rw [VerbCall.runLocal] at ok
  split at ok
  · cases yields_pure.1 ok
    rfl
  · split at ok
    · simp only [yields_bind, yields_map, yields_ofExcept, yields_pure, Prod.mk.injEq, Prod.exists,
        exists_eq_right] at ok
      rcases ok with ⟨t₁, ⟨removed, dropped⟩, t₂, bound, -, rfl⟩
      exact (updates_unset dropped).trans (rebinds_set bound).toUpdates
    · simp only [yields_bind, yields_pure, Prod.mk.injEq, exists_eq_left'] at ok
      rcases ok with ⟨t₁, bound, -, rfl⟩
      exact (rebinds_set bound).toUpdates

theorem rebinds_bindMissing {anyCase : Bool} {vars : List (String × Variable)} {n : Nat}
    (ok : Yields (Engine.bindMissing anyCase id t vars) (n, t')) : t.Rebinds id t' := by
  induction vars generalizing t n with
  | nil =>
      cases yields_pure.1 ok
      rfl
  | cons e vars ih =>
      rcases e with ⟨name, v⟩
      rw [Engine.bindMissing] at ok
      split at ok
      · exact ih ok
      · simp only [yields_bind, yields_pure, Prod.exists] at ok
        rcases ok with ⟨t₁, bound, k, t₂, others, same⟩
        cases same
        exact (rebinds_set bound).trans (ih others)

theorem rebinds_load {σ : Type} {e : Engine σ} {call : VerbCall} {page : PageId} {state : σ}
    {n : Nat} (ok : (e.load call t id page state).1.value = .ok (n, t')) : t.Rebinds id t' := by
  rw [Engine.load] at ok
  split at ok
  · cases ok
    rfl
  · simp only at ok
    split at ok
    · cases ok
    · cases ok
      rfl
    · rename_i vars after read
      have bound : Yields (Engine.bindMissing call.options.anyCase id t vars.toList) (n, t') := by
        rw [Expanding.value_map] at ok
        rw [Yields]
        cases result : (Engine.bindMissing call.options.anyCase id t vars.toList).run.value with
        | error e =>
            rw [result] at ok
            cases ok
        | ok pair =>
            rw [result] at ok
            cases ok
            rfl
      exact rebinds_bindMissing bound

end Tree

/-- A call by which a host changes the tree of a render. -/
inductive Call where
  | push (parent : FrameId) (title : String) (args : Arguments)
  | set (frame : FrameId) (name : String) (node : Node)
  | unset (frame : FrameId) (name : String) (anyCase shift : Bool)
  | inherit (frame : FrameId) (names : List String) (anyCase : Bool)
  | returnTo (frame : FrameId) (names : List String) (anyCase : Bool)
  | define (call : VerbCall) (frame : FrameId)
  | «local» (call : VerbCall) (frame : FrameId)
  | preview (call : VerbCall) (frame : FrameId)
  | load {σ : Type} (e : Engine σ) (call : VerbCall) (frame : FrameId) (page : PageId) (state : σ)

namespace Call

/-- The tree that a call leaves, unless it fails. -/
def run? (t : Tree) : Call → Option Tree
  | push parent title args => (·.2) <$> (t.push parent title args).toOption
  | set frame name node => (t.set frame name node).run.value.toOption
  | unset frame name anyCase shift => (·.2) <$> (t.unset frame name anyCase shift).toOption
  | inherit frame names anyCase => (·.2) <$> (t.inherit frame names anyCase).run.value.toOption
  | returnTo frame names anyCase => (·.2) <$> (t.returnTo frame names anyCase).run.value.toOption
  | define call frame => (·.2) <$> (call.runDefine t frame).run.value.toOption
  | «local» call frame => (·.2) <$> (call.runLocal t frame).run.value.toOption
  | preview call frame => (·.2) <$> (call.runPreview t frame).run.value.toOption
  | load e call frame page state => (·.2) <$> (e.load call t frame page state).1.value.toOption

/--
The frame that a call is for: the one it opens, the enclosing one when variables
are returned, else the one it is given. The page inherits and returns nothing.
-/
def target? (t : Tree) : Call → Option FrameId
  | push _ _ _ => some t.frames.size
  | set frame _ _ | unset frame _ _ _ => some frame
  | inherit frame _ _ => (t.parent? frame).map fun _ => frame
  | returnTo frame _ _ => t.parent? frame
  | define _ frame | «local» _ frame | preview _ frame | load _ _ frame _ _ => some frame

/-- The calls that bind variables and take none away. -/
def OnlyBinds : Call → Prop
  | set _ _ _ | inherit _ _ _ | returnTo _ _ _ | load _ _ _ _ _ => True
  | push _ _ _ | unset _ _ _ _ | define _ _ | «local» _ _ | preview _ _ => False

variable {t t' : Tree} {c : Call}

theorem exists_of_toOption {α ε : Type} {x : Except ε (α × Tree)}
    (ok : (·.2) <$> x.toOption = some t') : ∃ a, x = .ok (a, t') := by
  cases x with
  | error e => cases ok
  | ok pair => exact ⟨pair.1, by rw [← Option.some.inj ok]⟩

theorem eq_ok_of_toOption {ε : Type} {x : Except ε Tree} (ok : x.toOption = some t') :
    x = .ok t' := by
  cases x with
  | error e => cases ok
  | ok t => rw [Option.some.inj ok]

/-- A call that only binds does so in its target, if it has one. -/
theorem rebinds_of_run? (binds : c.OnlyBinds) (ok : c.run? t = some t') :
    (c.target? t = none ∧ t' = t) ∨ ∃ id, c.target? t = some id ∧ t.Rebinds id t' := by
  cases c with
  | push => exact binds.elim
  | unset => exact binds.elim
  | define => exact binds.elim
  | «local» => exact binds.elim
  | preview => exact binds.elim
  | set frame name node => exact Or.inr ⟨frame, rfl, Tree.rebinds_set (eq_ok_of_toOption ok)⟩
  | inherit frame names anyCase =>
      rcases exists_of_toOption ok with ⟨n, ran⟩
      rcases Tree.rebinds_inherit ran with ⟨top, same⟩ | ⟨enclosed, rebinds⟩
      · exact Or.inl ⟨by rw [target?, top]; rfl, same⟩
      · rcases Option.isSome_iff_exists.1 enclosed with ⟨parent, found⟩
        exact Or.inr ⟨frame, by rw [target?, found]; rfl, rebinds⟩
  | returnTo frame names anyCase =>
      rcases exists_of_toOption ok with ⟨n, ran⟩
      exact Tree.rebinds_returnTo ran
  | load e call frame page state =>
      rcases exists_of_toOption ok with ⟨n, ran⟩
      exact Or.inr ⟨frame, rfl, Tree.rebinds_load ran⟩

/-- Any call updates its target, if it has one, and else nothing. -/
theorem updates_of_run? (ok : c.run? t = some t') :
    (c.target? t = none ∧ t' = t) ∨ ∃ id, c.target? t = some id ∧ t.Updates id t' := by
  have of_rebinds (binds : c.OnlyBinds) :
      (c.target? t = none ∧ t' = t) ∨ ∃ id, c.target? t = some id ∧ t.Updates id t' := by
    rcases rebinds_of_run? binds ok with none | ⟨id, target, rebinds⟩
    · exact Or.inl none
    · exact Or.inr ⟨id, target, rebinds.toUpdates⟩
  cases c with
  | set => exact of_rebinds trivial
  | inherit => exact of_rebinds trivial
  | returnTo => exact of_rebinds trivial
  | load => exact of_rebinds trivial
  | push parent title args =>
      rcases exists_of_toOption ok with ⟨id, opened⟩
      rcases Tree.opens_of_push opened with ⟨f, opens⟩
      exact Or.inr ⟨id, congrArg some opens.id_eq.symm, Tree.updates_push opened⟩
  | unset frame name anyCase shift =>
      rcases exists_of_toOption ok with ⟨removed, ran⟩
      exact Or.inr ⟨frame, rfl, Tree.updates_unset ran⟩
  | define call frame =>
      rcases exists_of_toOption ok with ⟨changed, ran⟩
      exact Or.inr ⟨frame, rfl, Tree.updates_define ran⟩
  | «local» call frame =>
      rcases exists_of_toOption ok with ⟨changed, ran⟩
      exact Or.inr ⟨frame, rfl, Tree.updates_local ran⟩
  | preview call frame =>
      rcases exists_of_toOption ok with ⟨changed, ran⟩
      exact Or.inr ⟨frame, rfl, Tree.updates_preview ran⟩

theorem exists_updates (ok : c.run? t = some t') : ∃ id, t.Updates id t' := by
  rcases updates_of_run? ok with ⟨-, rfl⟩ | ⟨id, -, updates⟩
  · exact ⟨Tree.root, .refl _ _⟩
  · exact ⟨id, updates⟩

end Call

end TemplateVars
