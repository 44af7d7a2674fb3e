import TemplateVars.Proofs.Scope.Confined
import TemplateVars.Proofs.Scope.Gap
import TemplateVars.Scope.Update

/-!
# Updates stay within a frame

Setting, removing and copying variables come down to binding a node with its
text and to rearranging a frame. So they are confined to the frame they are
for, they keep a tree coherent and its frames separate, and those that only bind
leave every key its handle.
-/

namespace TemplateVars

universe u

instance : LawfulMonad Expanding.{u} := by
  refine LawfulMonad.mk' _ ?_ ?_ ?_
  · intro α x
    change Expanding.mk x.value (x.expanded ++ []) = x
    rw [List.append_nil]
  · intro α β a f
    rfl
  · intro α β γ x f g
    change Expanding.mk _ _ = Expanding.mk _ _
    simp [List.append_assoc]

namespace TreeUpdate

variable {α β : Type}

/-- The update succeeds with a result. -/
def Yields (x : TreeUpdate α) (a : α) : Prop := x.run.value = .ok a

variable {a : α} {b : β}

@[simp]
theorem yields_pure {a' : α} : Yields (pure a') a ↔ a' = a := by
  simp [Yields]

@[simp]
theorem yields_throw {e : FrameError} : ¬ Yields (throw e : TreeUpdate α) a := nofun

@[simp]
theorem yields_ofExcept {x : Except FrameError α} : Yields (ofExcept x) a ↔ x = .ok a := Iff.rfl

@[simp]
theorem yields_lift {x : Expanding α} : Yields (liftM x : TreeUpdate α) a ↔ x.value = a := by
  change Except.ok x.value = Except.ok a ↔ _
  simp

@[simp]
theorem yields_bind {x : TreeUpdate α} {f : α → TreeUpdate β} :
    Yields (x >>= f) b ↔ ∃ a, Yields x a ∧ Yields (f a) b := by
  simp only [Yields, ExceptT.run_bind, Expanding.value_bind]
  cases x.run.value with
  | ok a => simp
  | error e => simp

@[simp]
theorem yields_map {x : TreeUpdate α} {f : α → β} :
    Yields (f <$> x) b ↔ ∃ a, Yields x a ∧ f a = b := by
  rw [← bind_pure_comp, yields_bind]
  simp

end TreeUpdate

open TreeUpdate

namespace Tree

variable {t t' t'' : Tree} {id : FrameId}

/-- What a tree keeps while the variables of a frame come and go. -/
structure Updates (id : FrameId) (t t' : Tree) : Prop where
  coherent : t.Coherent → t'.Coherent
  separate : t.Separate → t'.Separate
  confined : t.Separate → t.Confined id t'
  inRange : t.Separate → t.InRange → t'.InRange
  nested : t.Separate → t.Nested → t'.Nested
  expander_eq : t'.expander = t.expander

@[refl]
theorem Updates.refl (id : FrameId) (t : Tree) : t.Updates id t :=
  ⟨fun coherent => coherent, fun separate => separate, fun _ => .refl id t,
    fun _ inRange => inRange, fun _ nested => nested, rfl⟩

theorem Updates.trans (first : t.Updates id t') (second : t'.Updates id t'') : t.Updates id t'' :=
  ⟨fun coherent => second.coherent (first.coherent coherent),
    fun separate => second.separate (first.separate separate),
    fun separate => (first.confined separate).trans (second.confined (first.separate separate)),
    fun separate inRange =>
      second.inRange (first.separate separate) (first.inRange separate inRange),
    fun separate nested =>
      second.nested (first.separate separate) (first.nested separate nested),
    second.expander_eq.trans first.expander_eq⟩

/-- An update by which nodes are bound and nothing is taken away: every key keeps its handle. -/
structure Rebinds (id : FrameId) (t t' : Tree) : Prop extends Updates id t t' where
  kept : t.Separate → ∀ other key ref, t.ref? other key = some ref → t'.ref? other key = some ref

@[refl]
theorem Rebinds.refl (id : FrameId) (t : Tree) : t.Rebinds id t :=
  ⟨.refl id t, fun _ _ _ _ found => found⟩

theorem Rebinds.trans (first : t.Rebinds id t') (second : t'.Rebinds id t'') : t.Rebinds id t'' :=
  ⟨first.toUpdates.trans second.toUpdates, fun separate other key ref found =>
    second.kept (first.separate separate) other key ref (first.kept separate other key ref found)⟩

theorem expander_bind {key : Key} {node : Node} {text : String}
    (ok : t.bind id key node text = .ok t') : t'.expander = t.expander := by
  rw [bind] at ok
  split at ok <;> rw [(modifyFrame_eq_ok.1 ok).2]

theorem rebinds_bind {key : Key} {node : Node} {text : String} (range : key.InRange)
    (own : t.Coherent → text = t.expander.textOf node) (ok : t.bind id key node text = .ok t') :
    t.Rebinds id t' where
  coherent coherent := coherent.bind (own coherent ▸ ok)
  separate separate := separate.bind ok
  confined separate := separate.confined_bind ok
  inRange separate inRange := inRange.bind separate.valid range ok
  nested separate nested := nested.bind separate.valid ok
  expander_eq := expander_bind ok
  kept := by
    intro separate other key' ref found
    rcases binds_of_bind separate.valid ok with ⟨f, held, b⟩
    rw [b.ref?_eq]
    split
    · rename_i here
      rw [here.1, here.2, ref?_of_frame? b.frame] at found
      rw [b.ref_eq, found]
      rfl
    · exact found

theorem updates_push {parent : FrameId} {title : String} {args : Arguments}
    (ok : t.push parent title args = .ok (id, t')) : t.Updates id t' := by
  rcases opens_of_push ok with ⟨f, opened⟩
  exact ⟨fun coherent => coherent.push ok, opened.separate, fun _ => opened.confined,
    fun _ => opened.inRange_tree, fun _ => opened.nested, opened.expander_eq⟩

theorem updates_modifyFrame {change : Frame → Frame}
    (moves : ∀ f, t.frame? id = some f → f.TextsBound → ∃ move, f.Rearranges (change f) move)
    (ok : t.modifyFrame id change = .ok t') : t.Updates id t' := by
  rcases modifyFrame_eq_ok.1 ok with ⟨present, rfl⟩
  rcases Option.isSome_iff_exists.1 present with ⟨f, frame⟩
  have moved (separate : t.Separate) : ∃ move, f.Rearranges (change f) move :=
    moves f frame (separate.textsBound id f frame)
  have changed := t.reframes_modify frame change t.nodes
  refine ⟨?_, ?_, ?_, ?_, ?_, rfl⟩
  · intro coherent
    rcases moved coherent.separate with ⟨move, moved⟩
    exact coherent.rearrange frame moved changed rfl
  · intro separate
    rcases moved separate with ⟨move, moved⟩
    exact separate.rearrange frame moved changed rfl
  · intro separate
    rcases moved separate with ⟨move, moved⟩
    exact changed.confined frame moved rfl
  · intro separate inRange
    rcases moved separate with ⟨move, moved⟩
    exact inRange.rearrange frame moved changed
  · intro separate nested
    rcases moved separate with ⟨move, moved⟩
    exact nested.reframe changed frame moved.parent_eq

/-- What is removed from a frame that exists is removed from that frame alone. -/
theorem exists_unset {f : Frame} (frame : t.frame? id = some f) (name : String)
    (anyCase shift : Bool) :
    ∃ t', t.unset id name anyCase shift = .ok ((f.unset name anyCase shift).2, t') ∧
      t.Reframes id (f.unset name anyCase shift).1 t' ∧ t'.nodes = t.nodes := by
  have changed := t.reframes_modify frame (fun _ => (f.unset name anyCase shift).1) t.nodes
  refine ⟨_, ?_, changed, rfl⟩
  simp only [unset, frame]
  rw [modifyFrame_eq_ok.2 ⟨by simp [frame], rfl⟩]
  rfl

theorem updates_unset {name : String} {anyCase shift removed : Bool}
    (ok : t.unset id name anyCase shift = .ok (removed, t')) : t.Updates id t' := by
  rw [unset] at ok
  cases frame : t.frame? id with
  | none =>
      rw [frame] at ok
      cases ok
  | some f =>
      rw [frame] at ok
      simp only [Except.map] at ok
      split at ok
      · cases ok
      · rename_i t₁ changed
        cases ok
        refine updates_modifyFrame ?_ changed
        intro g frame' bound
        cases frame.symm.trans frame'
        exact ⟨_, Frame.rearranges_unset bound name anyCase shift⟩

theorem rebinds_set {name : String} {node : Node} (ok : Yields (t.set id name node) t') :
    t.Rebinds id t' := by
  simp only [set, yields_bind, yields_lift, yields_ofExcept] at ok
  rcases ok with ⟨text, expanded, bound⟩
  refine rebinds_bind (Key.inRange_parse name) ?_ bound
  intro _
  rw [← expanded, expand, Expander.value_expand]

/-- In a frame that exists a name can be set. -/
theorem exists_set {f : Frame} (valid : t.HandlesValid) (frame : t.frame? id = some f)
    (name : String) (node : Node) :
    ∃ t' ref, Yields (t.set id name node) t' ∧
      t.Binds id (Key.parse name) node (t.expander.textOf node) f ref t' := by
  rcases valid.exists_binds frame (Key.parse name) node (t.expander.textOf node) with
    ⟨t', ref, bound, b⟩
  refine ⟨t', ref, ?_, b⟩
  simp only [set, yields_bind, yields_lift, yields_ofExcept, expand, Expander.value_expand,
    exists_eq_left']
  exact bound

theorem value_text (coherent : t.Coherent) (id : FrameId) (key : Key) :
    (t.text id key).value = (t.node? id key).map t.expander.textOf := by
  rw [text]
  cases known : t.cached? id key with
  | some text =>
      rcases coherent.texts id key text known with ⟨node, bound, rfl⟩
      rw [bound]
      rfl
  | none =>
      cases bound : t.node? id key with
      | none => rfl
      | some node => simp [expand]

theorem rebinds_copy {source : FrameId × Key} {name : String}
    (ok : Yields (t.copy source id name) t') : t.Rebinds id t' := by
  rw [copy] at ok
  cases bound : t.node? source.1 source.2 with
  | none =>
      rw [bound] at ok
      exact absurd ok yields_throw
  | some node =>
      rw [bound] at ok
      simp only [yields_bind, yields_lift, yields_ofExcept] at ok
      rcases ok with ⟨text, read, copied⟩
      refine rebinds_bind (Key.inRange_parse name) ?_ copied
      intro coherent
      rw [← read, value_text coherent, bound]
      rfl

theorem rebinds_copyAll {locate : Tree → String → Option (FrameId × Key)} {names : List String}
    {n : Nat} (ok : Yields (copyAll locate id t names) (n, t')) : t.Rebinds id t' := by
  induction names generalizing t n with
  | nil =>
      rw [copyAll, yields_pure] at ok
      cases ok
      rfl
  | cons name names ih =>
      rw [copyAll] at ok
      cases found : locate t name with
      | none =>
          rw [found] at ok
          exact ih ok
      | some source =>
          rw [found] at ok
          simp only [yields_bind, yields_pure, Prod.exists] at ok
          rcases ok with ⟨t₁, copied, k, t₂, others, same⟩
          cases same
          exact (rebinds_copy copied).trans (ih others)

/-- What is done with the enclosing frame of a frame is nothing for the page. -/
theorem of_enclosing {n : Nat} {act : FrameId → TreeUpdate (Nat × Tree)}
    (ok : Yields
      (match t.frame? id with
        | none => throw (.notFound id)
        | some f => match f.parent with
          | none => pure (0, t)
          | some parent => act parent) (n, t')) :
    (t.parent? id = none ∧ t' = t) ∨
      ∃ parent, t.parent? id = some parent ∧ Yields (act parent) (n, t') := by
  cases frame : t.frame? id with
  | none =>
      rw [frame] at ok
      exact absurd ok yields_throw
  | some f =>
      rw [frame] at ok
      rw [parent?, frame, Option.bind_some]
      cases enclosing : f.parent with
      | none =>
          simp only [enclosing, yields_pure, Prod.mk.injEq] at ok
          exact Or.inl ⟨rfl, ok.2.symm⟩
      | some parent =>
          simp only [enclosing] at ok
          exact Or.inr ⟨parent, rfl, ok⟩

/-- Variables are inherited by the frame itself. -/
theorem rebinds_inherit {names : List String} {anyCase : Bool} {n : Nat}
    (ok : Yields (t.inherit id names anyCase) (n, t')) :
    (t.parent? id = none ∧ t' = t) ∨ ((t.parent? id).isSome ∧ t.Rebinds id t') := by
  rcases of_enclosing ok with top | ⟨parent, found, copied⟩
  · exact Or.inl top
  · exact Or.inr ⟨Option.isSome_iff_exists.2 ⟨parent, found⟩, rebinds_copyAll copied⟩

/-- Variables are returned to the enclosing frame. -/
theorem rebinds_returnTo {names : List String} {anyCase : Bool} {n : Nat}
    (ok : Yields (t.returnTo id names anyCase) (n, t')) :
    (t.parent? id = none ∧ t' = t) ∨
      ∃ parent, t.parent? id = some parent ∧ t.Rebinds parent t' := by
  rcases of_enclosing ok with top | ⟨parent, found, copied⟩
  · exact Or.inl top
  · exact Or.inr ⟨parent, found, rebinds_copyAll copied⟩

end Tree

end TemplateVars
