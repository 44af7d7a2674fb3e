import TemplateVars.Proofs.Render.Isolation
import TemplateVars.Proofs.Scope.InPlace

/-!
# Requests are all or nothing

A host makes requests of one tree, which is changed in place. A request may
write several times, and each write looks its frame up anew, so one could think
that it breaks off half-way. It does not: a request that cannot be carried out
ends before its first write, and any other comes to its end, with the tree that
it is said to result in. So the trees that a host comes to in this way, failed
requests included, satisfy what is needed for the next request.
-/

namespace TemplateVars

namespace InPlace

/-- `local`: other spellings are dropped first if any case counts, then the value is bound. -/
def runLocal (call : VerbCall) (id : FrameId) : TreeAction Bool :=
  if call.name = "" ∨ call.options.gateOpen = false then return false
  else do
    let _ ← if call.options.anyCase then unset id call.name true false else pure false
    set id call.name call.valueNode
    return true

/-- Move what is bound under one spelling of a name to another. -/
def respell (id : FrameId) (existing name : String) : TreeAction Unit := do
  let t ← get
  match t.node? id (.named existing), (t.text id (.named existing)).value with
  | some node, some text =>
    modifyFrame id (·.erase (.named existing))
    bind id (Key.parse name) node text
  | _, _ => return ()

/-- `define`: the value is bound unless the name is; another spelling is moved. -/
def runDefine (call : VerbCall) (id : FrameId) : TreeAction Bool :=
  if call.name = "" ∨ call.options.gateOpen = false then return false
  else do
    match (← get).locateLocal id call.name call.options.anyCase with
    | none =>
      set id call.name call.valueNode
      return true
    | some (.numbered _) => return false
    | some (.named existing) =>
      if call.options.anyCase ∧ existing ≠ call.name then
        respell id existing call.name
        return false
      else return false

/-- `preview`: like `define`, but only on the page rendered directly. -/
def runPreview (call : VerbCall) (id : FrameId) : TreeAction Bool := do
  if (← get).isTopLevel id then runDefine call id else return false

/-- `inherit`: each name is pulled from the enclosing frames. -/
def runInherit (call : VerbCall) (id : FrameId) : TreeAction Nat :=
  if call.options.gateOpen then inherit id call.names call.options.anyCase else return 0

/-- `return`: each name is pushed into the enclosing frame. -/
def runReturn (call : VerbCall) (id : FrameId) : TreeAction Nat :=
  if call.options.gateOpen then returnTo id call.names call.options.anyCase else return 0

/-- Remove names one after another, and count those that were bound. -/
def unsetAll (anyCase shift : Bool) (id : FrameId) : List String → TreeAction Nat
  | [] => return 0
  | name :: rest => do
    let bound ← unset id name anyCase shift
    let removed ← unsetAll anyCase shift id rest
    return if bound then removed + 1 else removed

/-- `unset`: each name is removed. -/
def runUnset (call : VerbCall) (id : FrameId) : TreeAction Nat :=
  if call.options.gateOpen then
    unsetAll call.options.anyCase call.options.shift id call.names
  else return 0

/-- Bind the variables that a frame lacks one after another, and count them. -/
def bindMissing (anyCase : Bool) (id : FrameId) : List (String × Variable) → TreeAction Nat
  | [] => return 0
  | (name, v) :: rest => do
    if ((← get).locateLocal id name anyCase).isSome then bindMissing anyCase id rest
    else
      set id name v.toNode
      let bound ← bindMissing anyCase id rest
      return bound + 1

variable {α : Type} {t t' : Tree} {id : FrameId}

theorem settles_local (t : Tree) (id : FrameId) (call : VerbCall) :
    Settles t id (runLocal call id) (call.runLocal t id).run.value := by
  rw [runLocal, VerbCall.runLocal]
  split
  · exact .pure false
  · have sets (t : Tree) : Settles t id
        (do set id call.name call.valueNode; return true)
        (do return (true, ← t.set id call.name call.valueNode) : TreeUpdate (Bool × Tree)).run.value
        := by
      rw [TreeUpdate.value_bind]
      exact (settles_set t id call.name call.valueNode).bind_tree fun t' _ => .pure true
    split
    · change Settles t id (unset id call.name true false >>= fun _ => _)
        ((_ <$> TreeUpdate.ofExcept _ >>= fun t => _ : TreeUpdate (Bool × Tree)).run.value)
      rw [bind_map_left, TreeUpdate.value_bind]
      exact (settles_unset t id call.name true false).bind fun _ t₁ _ => sets t₁
    · exact (sets t).congr rfl

/-- Whichever node and text another spelling has, they are bound after it has been dropped. -/
theorem settles_respell (t : Tree) (id : FrameId) (existing name : String) :
    Settles t id (respell id existing name)
      ((VerbCall.respell t id existing name).run.value.map (Prod.mk ())) := by
  refine Settles.congr ?_ (Action.run_get_bind _ t)
  rw [VerbCall.respell, TreeUpdate.value_lift_bind]
  cases t.node? id (.named existing) with
  | none => exact .pure ()
  | some node =>
      cases (t.text id (.named existing)).value with
      | none => exact .pure ()
      | some text =>
          have dropped := settles_modifyFrame t id (·.erase (.named existing))
          change Settles t id _ (Prod.mk () <$>
            (t.modifyFrame id (·.erase (.named existing)) >>= fun t => t.bind id _ node text))
          rw [map_bind]
          exact dropped.bind_tree fun t₁ _ => settles_bind t₁ id (Key.parse name) node text

theorem settles_define (t : Tree) (id : FrameId) (call : VerbCall) :
    Settles t id (runDefine call id) (call.runDefine t id).run.value := by
  rw [runDefine, VerbCall.runDefine]
  split
  · exact .pure false
  · refine Settles.congr ?_ (Action.run_get_bind _ t)
    cases t.locateLocal id call.name call.options.anyCase with
    | none =>
        simp only [← bind_pure_comp, TreeUpdate.value_bind]
        exact (settles_set t id call.name call.valueNode).bind_tree fun t' _ => .pure true
    | some key =>
        cases key with
        | numbered n => exact .pure false
        | named existing =>
            simp only
            split
            · rw [← bind_pure_comp, TreeUpdate.value_bind]
              exact (settles_respell t id existing call.name).bind_tree fun t' _ => .pure false
            · exact .pure false

theorem settles_preview (t : Tree) (id : FrameId) (call : VerbCall) :
    Settles t id (runPreview call id) (call.runPreview t id).run.value := by
  refine Settles.congr ?_ (Action.run_get_bind _ t)
  rw [VerbCall.runPreview]
  split
  · exact settles_define t id call
  · exact .pure false

theorem settles_unsetAll (t : Tree) (id : FrameId) (anyCase shift : Bool) (names : List String) :
    Settles t id (unsetAll anyCase shift id names)
      (VerbCall.unsetAll anyCase shift id t names) := by
  induction names generalizing t with
  | nil => exact .pure 0
  | cons name names ih =>
      exact (settles_unset t id name anyCase shift).bind fun bound t₁ _ =>
        (ih t₁).bind fun removed t₂ _ => .pure _

theorem settles_bindMissing (t : Tree) (id : FrameId) (anyCase : Bool)
    (vars : List (String × Variable)) :
    Settles t id (bindMissing anyCase id vars)
      (Engine.bindMissing anyCase id t vars).run.value := by
  induction vars generalizing t with
  | nil => exact .pure 0
  | cons e vars ih =>
      rcases e with ⟨name, v⟩
      refine Settles.congr ?_ (Action.run_get_bind _ t)
      rw [Engine.bindMissing]
      split
      · exact ih t
      · rw [TreeUpdate.value_bind]
        refine (settles_set t id name v.toNode).bind_tree fun t₁ _ => ?_
        rw [TreeUpdate.value_bind]
        exact (ih t₁).bind fun bound t₂ _ => .pure (bound + 1)

theorem settles_runInherit (separate : t.Separate) (id : FrameId) (call : VerbCall) :
    Settles t id (runInherit call id) (call.runInherit t id).run.value := by
  rw [runInherit, VerbCall.runInherit]
  split
  · exact settles_inherit separate id call.names call.options.anyCase
  · exact .pure 0

theorem settles_runReturn (separate : t.Separate) (nested : t.Nested) (id : FrameId)
    (call : VerbCall) : Settles t id (runReturn call id) (call.runReturn t id).run.value := by
  rw [runReturn, VerbCall.runReturn]
  split
  · exact settles_returnTo separate nested id call.names call.options.anyCase
  · exact .pure 0

theorem settles_runUnset (t : Tree) (id : FrameId) (call : VerbCall) :
    Settles t id (runUnset call id) (call.runUnset t id) := by
  rw [runUnset, VerbCall.runUnset]
  split
  · exact settles_unsetAll t id call.options.anyCase call.options.shift call.names
  · exact .pure 0

/-! ### What becomes of a request -/

/-- The answer and the tree that is left, if a change that fails leaves the tree as it was. -/
def handOver {ε : Type} (t : Tree) : Except ε (α × Tree) → Except ε α × Tree
  | .ok (a, t') => (.ok a, t')
  | .error e => (.error e, t)

/-- Take the errors of an action on a tree for those of loading. -/
def asLoading (ended : Except FrameError α × Tree) : Except LoadError α × Tree :=
  (ended.1.mapError .frame, ended.2)

/--
A request for a frame is carried out as a whole, or it fails and the tree is what
it was: either there is no such frame, or the gateway fails.
-/
structure AllOrNothing (t : Tree) (id : FrameId) (gatewayFails : StoreError → Prop)
    (result : Except LoadError (α × Tree)) (ended : Except LoadError α × Tree) : Prop where
  /-- The tree that is left is the one that the request is said to result in. -/
  performed : ended = handOver t result
  kept : ∀ e, ended.1 = .error e → ended.2 = t
  cause : ∀ e, ended.1 = .error e → (e = .frame (.notFound id) ∧ t.frame? id = none) ∨
    ∃ fault, e = .store fault ∧ gatewayFails fault

theorem allOrNothing_done (t : Tree) (id : FrameId) (gatewayFails : StoreError → Prop) (a : α)
    (t' : Tree) : AllOrNothing t id gatewayFails (.ok (a, t')) (.ok a, t') :=
  ⟨rfl, nofun, nofun⟩

theorem Settles.allOrNothing {act : TreeAction α} {result : Except FrameError (α × Tree)}
    (settles : Settles t id act result) (gatewayFails : StoreError → Prop) :
    AllOrNothing t id gatewayFails (result.mapError .frame) (asLoading (act.run.run t)) := by
  cases settles with
  | @done a t' ran there =>
      rw [ran]
      exact allOrNothing_done t id gatewayFails a t'
  | refused missing ran =>
      rw [ran]
      refine ⟨rfl, fun _ _ => rfl, fun e failed => ?_⟩
      cases failed
      exact .inl ⟨rfl, missing⟩

/-- `load`: the gateway is asked first, then the variables are bound that the frame lacks. -/
def load {σ : Type} (e : Engine σ) (call : VerbCall) (id : FrameId) (page : PageId) (state : σ)
    (t : Tree) : Except LoadError Nat × Tree :=
  if !e.features.data || !call.options.gateOpen then (.ok 0, t)
  else
    match ((e.gateway.loadFiltered page (call.options.setName.getD "") call.names).run.run state).1
      with
    | .error fault => (.error (.store fault), t)
    | .ok none => (.ok 0, t)
    | .ok (some vars) =>
      asLoading ((bindMissing call.options.anyCase id vars.toList).run.run t)

/-- The gateway fails when a call to load variables asks it for them. -/
def LoadFails {σ : Type} (e : Engine σ) (call : VerbCall) (page : PageId) (state : σ)
    (fault : StoreError) : Prop :=
  ((e.gateway.loadFiltered page (call.options.setName.getD "") call.names).run.run state).1 =
    .error fault

theorem allOrNothing_load {σ : Type} (t : Tree) (id : FrameId) (e : Engine σ) (call : VerbCall)
    (page : PageId) (state : σ) :
    AllOrNothing t id (LoadFails e call page state) (e.load call t id page state).1.value
      (load e call id page state t) := by
  rw [Engine.load, load]
  split
  · exact allOrNothing_done t id _ 0 t
  · rcases answer : (e.gateway.loadFiltered page (call.options.setName.getD "")
      call.names).run.run state with ⟨fault | found, after⟩
    · refine ⟨by simp only [answer]; rfl, fun _ _ => rfl, fun e' failed => ?_⟩
      cases failed
      exact .inr ⟨fault, rfl, by rw [LoadFails, answer]⟩
    · simp only [answer]
      cases found with
      | none => exact allOrNothing_done t id _ 0 t
      | some vars =>
          exact (settles_bindMissing t id call.options.anyCase vars.toList).allOrNothing _

end InPlace

open InPlace

/-! ### Requests -/

namespace Call

/-- What a host learns from a call besides the tree. -/
def Answer : Call → Type
  | push _ _ _ => FrameId
  | set _ _ _ => Unit
  | unset _ _ _ _ | define _ _ | «local» _ _ | preview _ _ => Bool
  | inherit _ _ _ | returnTo _ _ _ | load _ _ _ _ _ => Nat

/-- The frame that a call is given. -/
def frame : Call → FrameId
  | push frame _ _ | set frame _ _ | unset frame _ _ _ | inherit frame _ _ | returnTo frame _ _ =>
    frame
  | define _ frame | «local» _ frame | preview _ frame | load _ _ frame _ _ => frame

/-- What a call results in: its answer and the tree. -/
def result (t : Tree) : (c : Call) → Except LoadError (c.Answer × Tree)
  | push parent title args => (t.push parent title args).mapError .frame
  | set frame name node => ((t.set frame name node).run.value.map (Prod.mk ())).mapError .frame
  | unset frame name anyCase shift => (t.unset frame name anyCase shift).mapError .frame
  | inherit frame names anyCase => (t.inherit frame names anyCase).run.value.mapError .frame
  | returnTo frame names anyCase => (t.returnTo frame names anyCase).run.value.mapError .frame
  | define call frame => (call.runDefine t frame).run.value.mapError .frame
  | «local» call frame => (call.runLocal t frame).run.value.mapError .frame
  | preview call frame => (call.runPreview t frame).run.value.mapError .frame
  | load e call frame page state => (e.load call t frame page state).1.value

/-- Carry a call out on a tree that is changed in place. -/
def perform (t : Tree) : (c : Call) → Except LoadError c.Answer × Tree
  | push parent title args => asLoading ((InPlace.push parent title args).run.run t)
  | set frame name node => asLoading ((InPlace.set frame name node).run.run t)
  | unset frame name anyCase shift =>
    asLoading ((InPlace.unset frame name anyCase shift).run.run t)
  | inherit frame names anyCase => asLoading ((InPlace.inherit frame names anyCase).run.run t)
  | returnTo frame names anyCase => asLoading ((InPlace.returnTo frame names anyCase).run.run t)
  | define call frame => asLoading ((runDefine call frame).run.run t)
  | «local» call frame => asLoading ((runLocal call frame).run.run t)
  | preview call frame => asLoading ((runPreview call frame).run.run t)
  | load e call frame page state => InPlace.load e call frame page state t

/-- The gateway fails a call. -/
def GatewayFails : Call → StoreError → Prop
  | load e call _ page state => LoadFails e call page state
  | _ => fun _ => False

variable {t t' : Tree}

theorem run?_of_result {c : Call} {a : c.Answer} (ok : c.result t = .ok (a, t')) :
    c.run? t = some t' := by
  have of_frame {α : Type} {x : Except FrameError (α × Tree)} {a : α}
      (ok : x.mapError .frame = (.ok (a, t') : Except LoadError (α × Tree))) :
      (·.2) <$> x.toOption = some t' := by
    rw [Action.mapError_eq_ok.1 ok]
    rfl
  cases c with
  | set frame name node =>
      rw [run?]
      have bound := of_frame ok
      cases ran : (t.set frame name node).run.value with
      | error e =>
          rw [ran] at bound
          cases bound
      | ok t₁ =>
          rw [ran] at bound
          exact bound
  | load e call frame page state =>
      rw [result] at ok
      rw [run?, ok]
      rfl
  | _ => exact of_frame ok

theorem allOrNothing (separate : t.Separate) (nested : t.Nested) (c : Call) :
    AllOrNothing t c.frame c.GatewayFails (c.result t) (c.perform t) := by
  cases c with
  | push parent title args => exact (settles_push t parent title args).allOrNothing _
  | set frame name node => exact (settles_set t frame name node).allOrNothing _
  | unset frame name anyCase shift =>
      exact (settles_unset t frame name anyCase shift).allOrNothing _
  | inherit frame names anyCase =>
      exact (settles_inherit separate frame names anyCase).allOrNothing _
  | returnTo frame names anyCase =>
      exact (settles_returnTo separate nested frame names anyCase).allOrNothing _
  | define call frame => exact (settles_define t frame call).allOrNothing _
  | «local» call frame => exact (settles_local t frame call).allOrNothing _
  | preview call frame => exact (settles_preview t frame call).allOrNothing _
  | load e call frame page state => exact allOrNothing_load t frame e call page state

end Call

/-- What a host asks of a tree: a call, or a verb that takes a list of names. -/
inductive Request where
  | ofCall (c : Call)
  | inherit (call : VerbCall) (frame : FrameId)
  | returnTo (call : VerbCall) (frame : FrameId)
  | unset (call : VerbCall) (frame : FrameId)

namespace Request

/-- What a host learns from a request besides the tree. -/
def Answer : Request → Type
  | ofCall c => c.Answer
  | inherit _ _ | returnTo _ _ | unset _ _ => Nat

/-- The frame that a request is given. -/
def frame : Request → FrameId
  | ofCall c => c.frame
  | inherit _ frame | returnTo _ frame | unset _ frame => frame

/-- What a request results in: its answer and the tree. -/
def result (t : Tree) : (r : Request) → Except LoadError (r.Answer × Tree)
  | ofCall c => c.result t
  | inherit call frame => (call.runInherit t frame).run.value.mapError .frame
  | returnTo call frame => (call.runReturn t frame).run.value.mapError .frame
  | unset call frame => (call.runUnset t frame).mapError .frame

/-- Carry a request out on a tree that is changed in place. -/
def perform (t : Tree) : (r : Request) → Except LoadError r.Answer × Tree
  | ofCall c => c.perform t
  | inherit call frame => asLoading ((runInherit call frame).run.run t)
  | returnTo call frame => asLoading ((runReturn call frame).run.run t)
  | unset call frame => asLoading ((runUnset call frame).run.run t)

/-- The gateway fails a request. -/
def GatewayFails : Request → StoreError → Prop
  | ofCall c => c.GatewayFails
  | inherit _ _ | returnTo _ _ | unset _ _ => fun _ => False

variable {t t' : Tree}

theorem allOrNothing (separate : t.Separate) (nested : t.Nested) (r : Request) :
    AllOrNothing t r.frame r.GatewayFails (r.result t) (r.perform t) := by
  cases r with
  | ofCall c => exact c.allOrNothing separate nested
  | inherit call frame => exact (settles_runInherit separate frame call).allOrNothing _
  | returnTo call frame => exact (settles_runReturn separate nested frame call).allOrNothing _
  | unset call frame => exact (settles_runUnset t frame call).allOrNothing _

theorem updates_unsetAll {id : FrameId} {anyCase shift : Bool} {names : List String} {n : Nat}
    (ok : VerbCall.unsetAll anyCase shift id t names = .ok (n, t')) : t.Updates id t' := by
  induction names generalizing t n with
  | nil =>
      cases ok
      rfl
  | cons name names ih =>
      rcases Action.bind_eq_ok.1 ok with ⟨⟨bound, t₁⟩, removed, rest⟩
      rcases Action.bind_eq_ok.1 rest with ⟨⟨k, t₂⟩, others, same⟩
      cases same
      exact (Tree.updates_unset removed).trans (ih others)

/-- Whatever is asked of a tree, one of its frames is updated at most. -/
theorem exists_updates {r : Request} {a : r.Answer} (ok : r.result t = .ok (a, t')) :
    ∃ id, t.Updates id t' := by
  cases r with
  | ofCall c => exact Call.exists_updates (Call.run?_of_result ok)
  | inherit call frame =>
      have ran := Action.mapError_eq_ok.1 ok
      rw [VerbCall.runInherit] at ran
      split at ran
      · refine Call.exists_updates (c := .inherit frame call.names call.options.anyCase) ?_
        rw [Call.run?, ran]
        rfl
      · cases ran
        exact ⟨frame, .refl frame t⟩
  | returnTo call frame =>
      have ran := Action.mapError_eq_ok.1 ok
      rw [VerbCall.runReturn] at ran
      split at ran
      · refine Call.exists_updates (c := .returnTo frame call.names call.options.anyCase) ?_
        rw [Call.run?, ran]
        rfl
      · cases ran
        exact ⟨frame, .refl frame t⟩
  | unset call frame =>
      have ran := Action.mapError_eq_ok.1 ok
      rw [VerbCall.runUnset] at ran
      split at ran
      · exact ⟨frame, updates_unsetAll ran⟩
      · cases ran
        exact ⟨frame, .refl frame t⟩

end Request

namespace Tree

variable {t t' : Tree}

/-- What happens to a tree in place: a request, failed or not, or a write through a handle. -/
inductive Occurs : Tree → Tree → Prop
  | request {t : Tree} (r : Request) : Occurs t (r.perform t).2
  | poke {t : Tree} (ref : NodeRef) (node : Node) : Occurs t (t.poke ref node)

/-- What fails leaves the tree that was there, so that the next request finds it in order. -/
theorem Occurs.keeps (occurs : Occurs t t') (order : t.Separate ∧ t.Nested) :
    t'.Separate ∧ t'.Nested := by
  rcases order with ⟨separate, nested⟩
  cases occurs with
  | poke ref node => exact ⟨separate_poke separate ref node, nested⟩
  | request r =>
      rw [(r.allOrNothing separate nested).performed]
      cases resulted : r.result t with
      | error e => exact ⟨separate, nested⟩
      | ok pair =>
          rcases pair with ⟨a, t₁⟩
          rcases Request.exists_updates resulted with ⟨id, updates⟩
          exact ⟨updates.separate separate, updates.nested separate nested⟩

/--
On a tree that a host has come to in place, every request is carried out as a
whole or leaves the tree as it was, and then its frame is missing or the gateway
has failed. On a list of names neither inheriting nor returning can get stuck.
-/
theorem allOrNothing_of_occurs {title : String} {expander : Expander}
    (run : Relation.ReflTransGen Occurs (ofPage title expander) t) :
    (∀ r : Request, AllOrNothing t r.frame r.GatewayFails (r.result t) (r.perform t)) ∧
      ∀ id parent, t.parent? id = some parent → ∀ anyCase,
        CopiesThrough (fun t name => t.locate parent name anyCase true) id t ∧
          CopiesThrough (fun t name => t.locate id name anyCase false) parent t := by
  have order : t.Separate ∧ t.Nested := by
    induction run with
    | refl => exact ⟨(coherent_ofPage title expander).separate, nested_ofPage title expander⟩
    | tail _ occurs ih => exact occurs.keeps ih
  rcases order with ⟨separate, nested⟩
  refine ⟨fun r => r.allOrNothing separate nested, fun id parent enclosed anyCase => ?_⟩
  rcases exists_parent nested enclosed with ⟨-, g, outer⟩
  rcases Option.bind_eq_some_iff.1 enclosed with ⟨f, own, -⟩
  exact ⟨copiesThrough (locatesBound_locate parent anyCase true) separate own,
    copiesThrough (locatesBound_locate id anyCase false) separate outer⟩

/-- A template is opened after a request that failed; it returns two of three names to the page. -/
theorem allOrNothing_opened :
    let names : VerbCall := { name := "x", extra := ["y", "1"] }
    Relation.ReflTransGen Occurs (ofPage "Page" shouting) opened ∧
      (Request.returnTo names 7).perform opened = (.error (.frame (.notFound 7)), opened) ∧
      ((Request.returnTo names 1).perform opened).1 = .ok (2 : Nat) ∧
      AllOrNothing opened 1 (fun _ => False) ((Request.returnTo names 1).result opened)
        ((Request.returnTo names 1).perform opened) ∧
      CopiesThrough (fun t name => t.locate 1 name false false) root opened := by
  intro names
  let nowhere : Request := .ofCall (.set 3 "x" (.text "v"))
  let opening : Request := .ofCall (.push root "Template"
    { positional := [.text "a", .markup "b", .markup "c"], named := [("x", .markup "d")] })
  have failed : (nowhere.perform (ofPage "Page" shouting)).2 = ofPage "Page" shouting := rfl
  have run : Relation.ReflTransGen Occurs (ofPage "Page" shouting) opened :=
    .tail (.single (failed ▸ Occurs.request nowhere)) (.request opening)
  rcases allOrNothing_of_occurs run with ⟨whole, through⟩
  have counted : (asLoading ((runReturn names 1).run.run opened)).1 = .ok 2 := by
    decide +kernel
  exact ⟨run, rfl, counted, whole (.returnTo names 1), (through 1 root rfl false).2⟩

end Tree

end TemplateVars
