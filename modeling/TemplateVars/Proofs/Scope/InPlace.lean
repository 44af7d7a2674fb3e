import TemplateVars.Proofs.Action
import TemplateVars.Proofs.Scope.InStep

/-!
# Updates in place

A host has one tree and changes it in place, so what an update has written
before it fails stays written. This file carries the updates out in that way,
statement by statement, and compares them with the changes of whole trees: an
update in place comes to its end and leaves the tree that the change gives, or
its frame is missing and it has written nothing. This is kept by sequences, as a
write can only follow on another one in a frame that is there. With lists of
names it takes that whatever a name is located at has a node, in every tree that
the names before it lead to.
-/

namespace TemplateVars

/-- An action on a tree that is changed in place. -/
abbrev TreeAction (α : Type) := ExceptT FrameError (StateM Tree) α

namespace InPlace

/-- The frame with an identifier, which has to be there. -/
def frame (id : FrameId) : TreeAction Frame := do
  match (← get).frame? id with
  | some f => return f
  | none => throw (.notFound id)

/-- Change the bindings of a frame. -/
def modifyFrame (id : FrameId) (change : Frame → Frame) : TreeAction Unit := do
  let _ ← frame id
  modify fun t => { t with frames := t.frames.modify id change }

/-- Overwrite the node of a key, or give the key a new one. -/
def putNode (id : FrameId) (key : Key) (node : Node) (t : Tree) : Tree :=
  match t.ref? id key with
  | some ref => t.poke ref node
  | none =>
    { t with
      nodes := t.nodes.push node
      frames := t.frames.modify id (·.insert key t.nodes.size) }

/-- Keep the text of a key. -/
def putText (id : FrameId) (key : Key) (text : String) (t : Tree) : Tree :=
  { t with frames := t.frames.modify id (·.keepText key text) }

/-- Bind a node and its text at a key of a frame: first the node is written, then the text. -/
def bind (id : FrameId) (key : Key) (node : Node) (text : String) : TreeAction Unit := do
  let _ ← frame id
  modify (putNode id key node)
  modify (putText id key text)

/-- Open a frame beneath another one, which has to be there. -/
def push (parent : FrameId) (title : String) (args : Arguments) : TreeAction FrameId := do
  let _ ← frame parent
  match (← get).push parent title args with
  | .ok (id, t) =>
    MonadState.set t
    return id
  | .error e => throw e

/-- Bind a name to a node. -/
def set (id : FrameId) (name : String) (node : Node) : TreeAction Unit := do
  let text := ((← get).expand node).value
  bind id (Key.parse name) node text

/-- Remove what is bound under a name. -/
def unset (id : FrameId) (name : String) (anyCase shift : Bool) : TreeAction Bool := do
  let f ← frame id
  let (rest, bound) := f.unset name anyCase shift
  modify fun t => { t with frames := t.frames.modify id fun _ => rest }
  return bound

/-- Bind a copy of what one frame holds at a key under a name in another frame. -/
def copy (source : FrameId × Key) (target : FrameId) (name : String) : TreeAction Unit := do
  let t ← get
  match t.node? source.1 source.2 with
  | none => throw (.notFound source.1)
  | some node => bind target (Key.parse name) node ((t.text source.1 source.2).value.getD "")

/-- Copy names one after another, each as it is located when its turn comes. -/
def copyAll (locate : Tree → String → Option (FrameId × Key)) (target : FrameId) :
    List String → TreeAction Nat
  | [] => return 0
  | name :: rest => do
    match locate (← get) name with
    | none => copyAll locate target rest
    | some source =>
      copy source target name
      let written ← copyAll locate target rest
      return written + 1

/-- Do something with the frame that encloses a frame; with the page there is nothing to do. -/
def enclosing (id : FrameId) (act : FrameId → TreeAction Nat) : TreeAction Nat := do
  let f ← frame id
  match f.parent with
  | none => return 0
  | some parent => act parent

/-- Copy each name that is visible from the enclosing frame upward into a frame. -/
def inherit (id : FrameId) (names : List String) (anyCase : Bool) : TreeAction Nat :=
  enclosing id fun parent => copyAll (fun t name => t.locate parent name anyCase true) id names

/-- Copy each name that a frame itself binds into the enclosing frame. -/
def returnTo (id : FrameId) (names : List String) (anyCase : Bool) : TreeAction Nat :=
  enclosing id fun parent => copyAll (fun t name => t.locate id name anyCase false) parent names

/--
What becomes of an update that is carried out in place: it comes to its end, as
the change of the tree does, or its frame is missing and it has written nothing.
-/
inductive Settles {α : Type} (t : Tree) (id : FrameId) (act : TreeAction α) :
    Except FrameError (α × Tree) → Prop
  | done {a : α} {t' : Tree} (ran : act.run.run t = (.ok a, t'))
      (there : t' = t ∨ (t'.frame? id).isSome) : Settles t id act (.ok (a, t'))
  | refused (missing : t.frame? id = none) (ran : act.run.run t = (.error (.notFound id), t)) :
      Settles t id act (.error (.notFound id))

variable {α β : Type} {t t' : Tree} {id parent target : FrameId} {f : Frame}

/-- Whatever begins with a frame that is there goes on with it. -/
theorem run_frame_bind (found : t.frame? id = some f) (act : Frame → TreeAction α) :
    (frame id >>= act).run.run t = (act f).run.run t := by
  have looked : (frame id).run.run t = (.ok f, t) := by
    rw [frame, Action.run_get_bind, found]
    rfl
  exact Action.run_bind_of_ok looked act

/-- Whatever begins with a frame that is missing ends there. -/
theorem run_frame_bind_of_missing (missing : t.frame? id = none) (act : Frame → TreeAction α) :
    (frame id >>= act).run.run t = (.error (.notFound id), t) := by
  have looked : (frame id).run.run t = (.error (.notFound id), t) := by
    rw [frame, Action.run_get_bind, missing]
    rfl
  rw [Action.run_bind, looked]

namespace Settles

variable {act act' : TreeAction α} {result : Except FrameError (α × Tree)}

theorem pure (a : α) : Settles t id (pure a) (.ok (a, t)) := .done rfl (.inl rfl)

theorem congr (settles : Settles t id act result) (same : act'.run.run t = act.run.run t) :
    Settles t id act' result := by
  cases settles with
  | done ran there => exact .done (same.trans ran) there
  | refused missing ran => exact .refused missing (same.trans ran)

/-- What follows on an update that has written begins with a frame that is there. -/
theorem bind {next : α → TreeAction β} {rest : α × Tree → Except FrameError (β × Tree)}
    (first : Settles t id act result)
    (after : ∀ a t', result = .ok (a, t') → Settles t' id (next a) (rest (a, t'))) :
    Settles t id (act >>= next) (result >>= rest) := by
  cases first with
  | refused missing ran =>
      refine .refused missing ?_
      rw [Action.run_bind, ran]
  | @done a t' ran there =>
      have second := after a t' rfl
      change Settles t id (act >>= next) (rest (a, t'))
      generalize rest (a, t') = ended at second
      cases second with
      | done ran' there' =>
          refine .done ((Action.run_bind_of_ok ran next).trans ran') ?_
          rcases there' with rfl | present
          · exact there
          · exact .inr present
      | refused missing ran' =>
          rcases there with rfl | present
          · exact .refused missing ((Action.run_bind_of_ok ran next).trans ran')
          · rw [missing] at present
            cases present

/-- The same where the change gives nothing but a tree. -/
theorem bind_tree {act : TreeAction Unit} {result : Except FrameError Tree}
    {next : TreeAction β} {rest : Tree → Except FrameError (β × Tree)}
    (first : Settles t id act (result.map (Prod.mk ())))
    (after : ∀ t', result = .ok t' → Settles t' id next (rest t')) :
    Settles t id (act >>= fun _ => next) (result >>= rest) := by
  have followed : Settles t id (act >>= fun _ => next)
      (result.map (Prod.mk ()) >>= fun p => rest p.2) := by
    refine first.bind fun a t' same => ?_
    cases result with
    | error e => cases same
    | ok t₁ =>
        cases same
        exact after t' rfl
  cases result with
  | error e => exact followed
  | ok t₁ => exact followed

/-- On a frame that is there an update comes to its end. -/
theorem exists_of_frame? (settles : Settles t id act result) (own : t.frame? id = some f) :
    ∃ a t', result = .ok (a, t') ∧ act.run.run t = (.ok a, t') ∧ (t'.frame? id).isSome := by
  cases settles with
  | refused missing ran =>
      rw [missing] at own
      cases own
  | @done a t' ran there =>
      refine ⟨a, t', rfl, ran, ?_⟩
      rcases there with rfl | present
      · simp [own]
      · exact present

end Settles

/-- Node and text, written one after the other, are what binding a node with its text gives. -/
theorem bind_eq_puts (own : t.frame? id = some f) (key : Key) (node : Node) (text : String) :
    t.bind id key node text = .ok (putText id key text (putNode id key node t)) := by
  have present : (t.frame? id).isSome := Option.isSome_iff_exists.2 ⟨f, own⟩
  rw [Tree.bind, putText, putNode]
  cases t.ref? id key with
  | some ref => exact Tree.modifyFrame_eq_ok.2 ⟨present, rfl⟩
  | none =>
      have twice :
          (t.frames.modify id (·.insert key t.nodes.size)).modify id (·.keepText key text) =
            t.frames.modify id fun f => (f.insert key t.nodes.size).keepText key text := by
        apply Array.ext_getElem?
        intro other
        simp only [Array.getElem?_modify]
        split
        · rw [Option.map_map]
          rfl
        · rfl
      rw [twice]
      exact Tree.modifyFrame_eq_ok.2 ⟨present, rfl⟩

theorem isSome_frame?_iff : (t.frame? id).isSome ↔ id < t.frames.size := by
  simp [Tree.frame?]

theorem isSome_frame?_of_size (own : t.frame? id = some f)
    (grown : t.frames.size ≤ t'.frames.size) :
    (t'.frame? id).isSome :=
  isSome_frame?_iff.2 (Nat.lt_of_lt_of_le (isSome_frame?_iff.1 (by simp [own])) grown)

theorem settles_modifyFrame (t : Tree) (id : FrameId) (change : Frame → Frame) :
    Settles t id (modifyFrame id change) ((t.modifyFrame id change).map (Prod.mk ())) := by
  cases own : t.frame? id with
  | none =>
      rw [Tree.modifyFrame_of_missing own]
      exact .refused own (run_frame_bind_of_missing own _)
  | some f =>
      rw [Tree.modifyFrame_eq_ok.2 ⟨by simp [own], rfl⟩]
      exact .done (run_frame_bind own _) (.inr (isSome_frame?_of_size own (by simp)))

theorem settles_bind (t : Tree) (id : FrameId) (key : Key) (node : Node) (text : String) :
    Settles t id (bind id key node text) ((t.bind id key node text).map (Prod.mk ())) := by
  cases own : t.frame? id with
  | none =>
      rw [Tree.bind_of_missing own]
      exact .refused own (run_frame_bind_of_missing own _)
  | some f =>
      rw [bind_eq_puts own]
      refine .done (run_frame_bind own _) (.inr (isSome_frame?_of_size own ?_))
      rw [putText, putNode]
      split <;> simp [Tree.poke]

theorem settles_set (t : Tree) (id : FrameId) (name : String) (node : Node) :
    Settles t id (set id name node) ((t.set id name node).run.value.map (Prod.mk ())) := by
  rw [Tree.set, TreeUpdate.value_lift_bind]
  refine (settles_bind t id (Key.parse name) node (t.expand node).value).congr ?_
  rw [set, Action.run_get_bind]

theorem settles_push (t : Tree) (parent : FrameId) (title : String) (args : Arguments) :
    Settles t parent (push parent title args) (t.push parent title args) := by
  cases own : t.frame? parent with
  | none =>
      rw [Tree.push, own]
      exact .refused own (run_frame_bind_of_missing own _)
  | some f =>
      have opened : ∃ id t', t.push parent title args = .ok (id, t') := by
        rw [Tree.push, own]
        exact ⟨_, _, rfl⟩
      rcases opened with ⟨id, t', opened⟩
      rw [opened]
      refine .done ?_ ?_
      · rw [push, run_frame_bind own, Action.run_get_bind, opened]
        rfl
      · refine .inr (isSome_frame?_of_size own ?_)
        rw [Tree.push, own] at opened
        cases opened
        simp

theorem settles_unset (t : Tree) (id : FrameId) (name : String) (anyCase shift : Bool) :
    Settles t id (unset id name anyCase shift) (t.unset id name anyCase shift) := by
  cases own : t.frame? id with
  | none =>
      rw [Tree.unset_of_missing own]
      exact .refused own (run_frame_bind_of_missing own _)
  | some f =>
      have kept : (t.modifyFrame id fun _ => (f.unset name anyCase shift).1) = .ok _ :=
        Tree.modifyFrame_eq_ok.2 ⟨by simp [own], rfl⟩
      simp only [Tree.unset, own, kept]
      exact .done (run_frame_bind own _) (.inr (isSome_frame?_of_size own (by simp)))

/-- What is bound can be copied, if the frame that it is to be bound in is there. -/
theorem settles_copy (separate : t.Separate) {owner : FrameId} {key : Key}
    (bound : (t.ref? owner key).isSome) (target : FrameId) (name : String) :
    Settles t target (copy (owner, key) target name)
      ((t.copy (owner, key) target name).run.value.map (Prod.mk ())) := by
  rcases separate.valid.exists_node bound with ⟨node, points⟩
  rw [Tree.copy, points, TreeUpdate.value_lift_bind]
  refine (settles_bind t target (Key.parse name) node _).congr ?_
  rw [copy, Action.run_get_bind, points]

/-- A name is located where something is bound. -/
def LocatesBound (locate : Tree → String → Option (FrameId × Key)) : Prop :=
  ∀ t name owner key, locate t name = some (owner, key) → (t.ref? owner key).isSome

variable {locate : Tree → String → Option (FrameId × Key)}

theorem settles_copyAll (bound : LocatesBound locate) (separate : t.Separate) (target : FrameId)
    (names : List String) :
    Settles t target (copyAll locate target names) (t.copyAll locate target names).run.value := by
  induction names generalizing t with
  | nil => exact .pure 0
  | cons name names ih =>
      rw [Tree.copyAll]
      cases located : locate t name with
      | none =>
          refine (ih separate).congr ?_
          rw [copyAll, Action.run_get_bind, located]
      | some source =>
          have copies := settles_copy separate (bound t name _ _ located) target name
          have step : (copyAll locate target (name :: names)).run.run t =
              (do
                copy source target name
                let written ← copyAll locate target names
                return written + 1 : TreeAction Nat).run.run t := by
            rw [copyAll, Action.run_get_bind, located]
          rw [TreeUpdate.value_bind]
          refine (copies.bind_tree fun t' copied => ?_).congr step
          have separate' := (Tree.rebinds_copy copied).toUpdates.separate separate
          rw [TreeUpdate.value_bind]
          exact (ih separate').bind fun written t'' _ => .pure (written + 1)

theorem locatesBound_locate (id : FrameId) (anyCase upward : Bool) :
    LocatesBound fun t name => t.locate id name anyCase upward :=
  fun _ _ _ _ located => Tree.ref?_of_locateIn located

theorem exists_parent (nested : t.Nested) (enclosed : t.parent? id = some parent) :
    parent < id ∧ ∃ g, t.frame? parent = some g := by
  have below : parent < id := nested id parent enclosed
  rcases Option.bind_eq_some_iff.1 enclosed with ⟨f, own, -⟩
  have inside : id < t.frames.size := isSome_frame?_iff.1 (by simp [own])
  exact ⟨below, Option.isSome_iff_exists.1 (isSome_frame?_iff.2 (Nat.lt_trans below inside))⟩

/-- The page has no frame to copy from or to. -/
theorem run_enclosing_of_top (own : t.frame? id = some f) (top : f.parent = none)
    (act : FrameId → TreeAction Nat) :
    (enclosing id act).run.run t = (pure 0 : TreeAction Nat).run.run t := by
  rw [enclosing, run_frame_bind own, top]

theorem run_enclosing (own : t.frame? id = some f) (outer : f.parent = some parent)
    (act : FrameId → TreeAction Nat) :
    (enclosing id act).run.run t = (act parent).run.run t := by
  rw [enclosing, run_frame_bind own, outer]

theorem settles_inherit (separate : t.Separate) (id : FrameId) (names : List String)
    (anyCase : Bool) :
    Settles t id (inherit id names anyCase) (t.inherit id names anyCase).run.value := by
  rw [Tree.inherit]
  cases own : t.frame? id with
  | none => exact .refused own (run_frame_bind_of_missing own _)
  | some f =>
      cases outer : f.parent with
      | none =>
          simp only [outer]
          exact (Settles.pure 0).congr (run_enclosing_of_top own outer _)
      | some parent =>
          simp only [outer]
          exact (settles_copyAll (locatesBound_locate parent anyCase true) separate id names).congr
            (run_enclosing own outer _)

/-- The enclosing frame is there, as the frame itself is. -/
theorem settles_returnTo (separate : t.Separate) (nested : t.Nested) (id : FrameId)
    (names : List String) (anyCase : Bool) :
    Settles t id (returnTo id names anyCase) (t.returnTo id names anyCase).run.value := by
  rw [Tree.returnTo]
  cases own : t.frame? id with
  | none => exact .refused own (run_frame_bind_of_missing own _)
  | some f =>
      cases outer : f.parent with
      | none =>
          simp only [outer]
          exact (Settles.pure 0).congr (run_enclosing_of_top own outer _)
      | some parent =>
          have enclosed : t.parent? id = some parent := by
            rw [Tree.parent?, own]
            exact outer
          rcases exists_parent nested enclosed with ⟨below, g, there⟩
          have bound := locatesBound_locate id anyCase false
          rcases (settles_copyAll bound separate parent names).exists_of_frame? there with
            ⟨n, t', copied, ran, -⟩
          have away := ((Tree.rebinds_copyAll copied).toUpdates.confined separate).frame?_eq id
            (Nat.ne_of_gt below)
          simp only [outer]
          rw [copied]
          exact .done ((run_enclosing own outer _).trans ran) (.inr (by rw [away, own]; rfl))

/--
Whatever names come before a name in a list, they are copied, and whatever the
name is located at then has a node and is copied as well.
-/
def CopiesThrough (locate : Tree → String → Option (FrameId × Key)) (target : FrameId)
    (t : Tree) : Prop :=
  ∀ before name, ∃ n t₁, (copyAll locate target before).run.run t = (.ok n, t₁) ∧
    ∀ owner key, locate t₁ name = some (owner, key) → (t₁.node? owner key).isSome ∧
      ∃ t₂, (copy (owner, key) target name).run.run t₁ = (.ok (), t₂)

theorem copiesThrough (bound : LocatesBound locate) (separate : t.Separate)
    (own : t.frame? target = some f) : CopiesThrough locate target t := by
  intro before name
  rcases (settles_copyAll bound separate target before).exists_of_frame? own with
    ⟨n, t₁, copied, ran, present⟩
  refine ⟨n, t₁, ran, fun owner key located => ?_⟩
  have separate₁ := (Tree.rebinds_copyAll copied).toUpdates.separate separate
  have held := bound t₁ name owner key located
  rcases separate₁.valid.exists_node held with ⟨node, points⟩
  rcases Option.isSome_iff_exists.1 present with ⟨f₁, own₁⟩
  rcases (settles_copy separate₁ held target name).exists_of_frame? own₁ with
    ⟨⟨⟩, t₂, -, ran₂, -⟩
  exact ⟨by rw [points]; rfl, t₂, ran₂⟩

end InPlace

end TemplateVars
