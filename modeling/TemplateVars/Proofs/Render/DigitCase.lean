import TemplateVars.Proofs.Render.Isolation
import TemplateVars.Proofs.Scope.InStep
import TemplateVars.Store.Memory

/-!
# Names that are all digits have no case

Calls that differ in whether case counts, and that name nothing but digits, do
not leave the same tree: where case does not count, `local` first drops the
digits that are bound beside their position as a number, and puts other digits
last. But the trees stay alike through all later calls, so that no answer, no
variable that is saved and no look-up ever tells which call was made.
-/

namespace TemplateVars

open TreeUpdate

namespace VerbCall

/-- The same call with a flag of its own for whether case counts. -/
def withCase (call : VerbCall) (anyCase : Bool) : VerbCall :=
  { call with options := { call.options with anyCase } }

section WithCase

variable (call : VerbCall) (anyCase : Bool)

@[simp]
theorem name_withCase : (call.withCase anyCase).name = call.name := rfl

@[simp]
theorem names_withCase : (call.withCase anyCase).names = call.names := rfl

@[simp]
theorem valueNode_withCase : (call.withCase anyCase).valueNode = call.valueNode := rfl

@[simp]
theorem anyCase_withCase : (call.withCase anyCase).options.anyCase = anyCase := rfl

@[simp]
theorem gateOpen_withCase : (call.withCase anyCase).options.gateOpen = call.options.gateOpen := rfl

end WithCase

end VerbCall

namespace Tree

variable {t t' : Tree} {id : FrameId} {name existing : String} {anyCase anyCase' : Bool}
  {call : VerbCall}

/-! ### Verbs in step -/

theorem Alike.erase (alike : t.Alike t') (id : FrameId) (existing : String) :
    AgreeOn Alike (t.modifyFrame id (·.erase (.named existing)))
      (t'.modifyFrame id (·.erase (.named existing))) := by
  rcases alike.frames id with ⟨missing, missing'⟩ | ⟨f, f', frame, frame', -⟩
  · rw [modifyFrame_of_missing missing, modifyFrame_of_missing missing']
    exact .error _
  · have moved {t : Tree} {f : Frame} (separate : t.Separate) (frame : t.frame? id = some f) :
        t.Moves id (fun old => if old = .named existing then none else some old)
          (·.filter (· ≠ existing))
          { t with frames := t.frames.modify id (·.erase (.named existing)) } :=
      (t.reframes_modify frame (·.erase (.named existing)) t.nodes).moves separate frame
        (f.rearranges_erase _) rfl (f.words_erase existing)
    have shadows : KeepsShadows fun old => if old = .named existing then none else some old :=
      keepsShadows_of_dropped nofun
    rw [modifyFrame_eq_ok.2 ⟨by simp [frame], rfl⟩, modifyFrame_eq_ok.2 ⟨by simp [frame'], rfl⟩]
    exact .ok (alike.moves shadows (moved alike.separate frame) (moved alike.separate' frame'))

theorem Alike.respell (alike : t.Alike t') (seen : ¬ (Key.named existing).Shadowed (t.ref? id))
    (name : String) :
    InStep Alike (VerbCall.respell t id existing name) (VerbCall.respell t' id existing name) := by
  rw [InStep, VerbCall.respell, VerbCall.respell, value_lift_bind, value_lift_bind,
    alike.node?_eq id _ seen, alike.text_eq seen]
  split
  · exact (alike.erase id existing).bind fun t₁ t₁' alike₁ => alike₁.bind id name _ _
  · exact inStep_pure alike

/-- A name is found under another one only in another case, and is no number then. -/
theorem anyCase_of_locateLocal (located : t.locateLocal id name anyCase = some (.named existing))
    (apart : existing ≠ name) : anyCase = true ∧ Text.isDigits name = false := by
  rcases Option.bind_eq_some_iff.1 located with ⟨f, -, own⟩
  rcases (Frame.answers_of_locate own).1 with routed | named | ⟨any, word, -⟩
  · exact absurd (Key.parse_eq_named.1 routed.symm).1.symm apart
  · exact absurd (Key.named.inj named) apart
  · exact ⟨any, word⟩

theorem Alike.define (alike : t.Alike t') (id : FrameId)
    (same : SameLookup call.name call.options.anyCase anyCase) :
    InStep SameAnswer (call.runDefine t id) ((call.withCase anyCase).runDefine t' id) := by
  rw [VerbCall.runDefine, VerbCall.runDefine]
  simp only [VerbCall.name_withCase, VerbCall.gateOpen_withCase, VerbCall.anyCase_withCase,
    VerbCall.valueNode_withCase, alike.locateLocal_eq id same]
  split
  · exact inStep_pure ⟨rfl, alike⟩
  · cases found : t.locateLocal id call.name call.options.anyCase with
    | none => exact (alike.set id call.name call.valueNode).map fun _ _ alike₁ => ⟨rfl, alike₁⟩
    | some key =>
        cases key with
        | numbered n => exact inStep_pure ⟨rfl, alike⟩
        | named existing =>
            by_cases own : existing = call.name
            · simp only [own, ne_eq, not_true_eq_false, and_false, if_false]
              exact inStep_pure ⟨rfl, alike⟩
            · rcases anyCase_of_locateLocal found own with ⟨any, word⟩
              have any' : anyCase = true := by
                rcases same with flags | digits
                · exact flags.trans any
                · rw [word] at digits
                  cases digits
              have seen := not_shadowed_of_locateLocal found
              simp only [any, any', own, ne_eq, not_false_eq_true, and_self, if_true]
              exact (alike.respell seen call.name).map fun _ _ alike₁ => ⟨rfl, alike₁⟩

theorem Alike.preview (alike : t.Alike t') (id : FrameId)
    (same : SameLookup call.name call.options.anyCase anyCase) :
    InStep SameAnswer (call.runPreview t id) ((call.withCase anyCase).runPreview t' id) := by
  have top : t'.isTopLevel id = t.isTopLevel id := by
    rw [isTopLevel, isTopLevel]
    rcases alike.frames id with ⟨missing, missing'⟩ | ⟨f, f', frame, frame', parent, -⟩
    · rw [missing, missing']
    · rw [frame, frame', Option.any_some, Option.any_some, parent]
  rw [VerbCall.runPreview, VerbCall.runPreview, top]
  split
  · exact alike.define id same
  · exact inStep_pure ⟨rfl, alike⟩

/-- What `local` does before it binds a name: where case does not count, it drops its spellings. -/
def clear (t : Tree) (id : FrameId) (name : String) (anyCase : Bool) : TreeUpdate Tree :=
  if anyCase then (·.2) <$> TreeUpdate.ofExcept (t.unset id name true false) else pure t

theorem runLocal_eq (call : VerbCall) (t : Tree) (id : FrameId) :
    call.runLocal t id =
      if call.name = "" ∨ call.options.gateOpen = false then pure (false, t)
      else do
        let t ← t.clear id call.name call.options.anyCase
        let t ← t.set id call.name call.valueNode
        return (true, t) := by
  rw [VerbCall.runLocal]
  cases any : call.options.anyCase <;> simp [clear]

/-- Of a name that is all digits nothing is dropped but that name. -/
theorem exists_swept {f : Frame} (separate : t.Separate) (frame : t.frame? id = some f)
    (digits : Text.isDigits name = true) (anyCase : Bool) :
    ∃ t₁, (t.clear id name anyCase).run.value = .ok t₁ ∧ t.Sweeps id name t₁ := by
  cases anyCase with
  | false => exact ⟨t, rfl, separate.sweeps id name⟩
  | true =>
      rcases exists_sweeps_unset separate frame digits true with ⟨removed, t₁, ran, swept⟩
      have dropped : Yields (t.clear id name true) t₁ := by
        rw [clear, if_pos rfl, yields_map]
        exact ⟨(removed, t₁), ran, rfl⟩
      exact ⟨t₁, dropped, swept⟩

theorem clear_of_missing (missing : t.frame? id = none) (anyCase : Bool) (node : Node) :
    (t.clear id name anyCase >>= fun t => t.set id name node).run.value =
      .error (.notFound id) := by
  rw [value_bind]
  cases anyCase with
  | false =>
      change (t.set id name node).run.value = _
      rw [set, value_lift_bind]
      exact bind_of_missing missing _ _ _
  | true =>
      rw [clear, if_pos rfl, unset_of_missing missing]
      rfl

/-- Digits bound anew are seen the same, whether or not they were dropped before. -/
theorem Alike.clear_set (alike : t.Alike t') (id : FrameId)
    (same : SameLookup name anyCase anyCase') (node : Node) :
    InStep Alike (t.clear id name anyCase >>= fun t => t.set id name node)
      (t'.clear id name anyCase' >>= fun t => t.set id name node) := by
  rcases same with rfl | digits
  · refine InStep.bind (R := Alike) ?_ fun t₁ t₁' alike₁ => alike₁.set id name node
    rw [clear, clear]
    split
    · exact InStep.map (alike.unset id (.refl ..) false) fun _ _ related => related.2
    · exact inStep_pure alike
  · -- one side may have dropped what the other keeps, but binding the name covers it
    rcases alike.frames id with ⟨missing, missing'⟩ | ⟨f, f', frame, frame', -⟩
    · rw [InStep, clear_of_missing missing, clear_of_missing missing']
      exact .error _
    · rcases exists_swept alike.separate frame digits anyCase with ⟨t₁, dropped, swept⟩
      rcases exists_swept alike.separate' frame' digits anyCase' with ⟨t₁', dropped', swept'⟩
      rw [InStep, value_bind, value_bind, dropped, dropped']
      exact alike.set_swept swept swept' node

theorem Alike.local (alike : t.Alike t') (id : FrameId)
    (same : SameLookup call.name call.options.anyCase anyCase) :
    InStep SameAnswer (call.runLocal t id) ((call.withCase anyCase).runLocal t' id) := by
  rw [runLocal_eq, runLocal_eq]
  simp only [VerbCall.name_withCase, VerbCall.gateOpen_withCase, VerbCall.anyCase_withCase,
    VerbCall.valueNode_withCase]
  by_cases idle : call.name = "" ∨ call.options.gateOpen = false
  · simp only [idle, if_true]
    exact inStep_pure ⟨rfl, alike⟩
  · have sets := alike.clear_set id same call.valueNode
    simp only [idle, if_false, ← bind_assoc]
    exact sets.bind fun t₁ t₁' alike₁ => inStep_pure ⟨rfl, alike₁⟩

/-! ### Saving -/

theorem Alike.capture_eq (alike : t.Alike t') (id : FrameId) {options : VerbOptions}
    (same : SameLookup name options.anyCase anyCase) :
    Engine.capture t' id { options with anyCase } name = Engine.capture t id options name := by
  rw [Engine.capture, Engine.capture, alike.locateLocal_eq id same]
  cases located : t.locateLocal id name options.anyCase with
  | none => rfl
  | some key =>
      have seen := not_shadowed_of_locateLocal located
      simp only [alike.node?_eq id key seen, alike.text_eq seen]

theorem Alike.captureAll_eq (alike : t.Alike t') (id : FrameId) {options : VerbOptions}
    {names : List String}
    (same : ∀ name ∈ names, SameLookup name options.anyCase anyCase) :
    Engine.captureAll t' id { options with anyCase } names =
      Engine.captureAll t id options names := by
  induction names with
  | nil => rfl
  | cons name names ih =>
      rw [List.forall_mem_cons] at same
      rw [Engine.captureAll, Engine.captureAll, alike.capture_eq id same.1, ih same.2]

theorem Alike.save_eq (alike : t.Alike t') (id : FrameId)
    (same : ∀ name ∈ call.names, SameLookup name call.options.anyCase anyCase) {σ : Type}
    (e : Engine σ) (page : PageId) (stash : Stash) :
    e.save (call.withCase anyCase) t' id page stash = e.save call t id page stash := by
  have captured : Engine.captureAll t' id (call.withCase anyCase).options call.names =
      Engine.captureAll t id call.options call.names := alike.captureAll_eq id same
  simp only [Engine.save, VerbCall.gateOpen_withCase, VerbCall.names_withCase, captured]
  rfl

end Tree

/-! ### Runs -/

/-- A call by which a host binds, removes, copies or saves variables. -/
inductive VariableCall where
  | set (frame : FrameId) (name : String) (node : Node)
  | unset (frame : FrameId) (name : String) (anyCase shift : Bool)
  | inherit (frame : FrameId) (names : List String) (anyCase : Bool)
  | returnTo (frame : FrameId) (names : List String) (anyCase : Bool)
  | define (call : VerbCall) (frame : FrameId)
  | «local» (call : VerbCall) (frame : FrameId)
  | preview (call : VerbCall) (frame : FrameId)
  | save (call : VerbCall) (frame : FrameId) (page : PageId)

/-- What a call answers with. -/
inductive Answer where
  | done
  | flag (changed : Bool)
  | count (n : Nat)
  deriving DecidableEq

namespace VariableCall

/-- The names that a call is about. -/
def names : VariableCall → List String
  | set _ name _ | unset _ name _ _ => [name]
  | inherit _ names _ | returnTo _ names _ => names
  | define call _ | «local» call _ | preview call _ => [call.name]
  | save call _ _ => call.names

/-- Whether case does not count in a call. -/
def anyCase : VariableCall → Bool
  | set _ _ _ => false
  | unset _ _ anyCase _ | inherit _ _ anyCase | returnTo _ _ anyCase => anyCase
  | define call _ | «local» call _ | preview call _ | save call _ _ => call.options.anyCase

/-- The same call with a flag of its own for whether case counts; setting a variable has none. -/
def withCase (anyCase : Bool) : VariableCall → VariableCall
  | set frame name node => set frame name node
  | unset frame name _ shift => unset frame name anyCase shift
  | inherit frame names _ => inherit frame names anyCase
  | returnTo frame names _ => returnTo frame names anyCase
  | define call frame => define (call.withCase anyCase) frame
  | «local» call frame => «local» (call.withCase anyCase) frame
  | preview call frame => preview (call.withCase anyCase) frame
  | save call frame page => save (call.withCase anyCase) frame page

/-- The same call, unless it names nothing but digits and may differ in whether case counts. -/
def Recased (c c' : VariableCall) : Prop :=
  c' = c ∨ (∀ name ∈ c.names, Text.isDigits name = true) ∧ ∃ anyCase, c' = c.withCase anyCase

theorem Recased.exists_withCase {c c' : VariableCall} (recased : Recased c c') :
    ∃ anyCase, c' = c.withCase anyCase ∧ ∀ name ∈ c.names, SameLookup name c.anyCase anyCase := by
  rcases recased with rfl | ⟨digits, anyCase, rfl⟩
  · exact ⟨c'.anyCase, by cases c' <;> rfl, fun name _ => .refl name _⟩
  · exact ⟨anyCase, rfl, fun name listed => Or.inr (digits name listed)⟩

variable {σ : Type} (e : Engine σ)

/-- The answer to a call with the tree and the stash that it leaves, unless it fails. -/
def run (t : Tree) (stash : Stash) : VariableCall → Except FrameError (Answer × Tree × Stash)
  | set frame name node => (fun t => (.done, t, stash)) <$> (t.set frame name node).run.value
  | unset frame name anyCase shift =>
    (fun x => (.flag x.1, x.2, stash)) <$> t.unset frame name anyCase shift
  | inherit frame names anyCase =>
    (fun x => (.count x.1, x.2, stash)) <$> (t.inherit frame names anyCase).run.value
  | returnTo frame names anyCase =>
    (fun x => (.count x.1, x.2, stash)) <$> (t.returnTo frame names anyCase).run.value
  | define call frame => (fun x => (.flag x.1, x.2, stash)) <$> (e.define call t frame).run.value
  | «local» call frame => (fun x => (.flag x.1, x.2, stash)) <$> (e.local call t frame).run.value
  | preview call frame => (fun x => (.flag x.1, x.2, stash)) <$> (e.preview call t frame).run.value
  | save call frame page =>
    let saved := (e.save call t frame page stash).value
    .ok (.count saved.1, t, saved.2)

end VariableCall

/-- What a run of calls comes to. -/
structure Aftermath where
  answers : List (Except FrameError Answer)
  tree : Tree
  stash : Stash

/-- Make calls one after another; one that fails leaves everything as it is. -/
def runCalls {σ : Type} (e : Engine σ) (t : Tree) (stash : Stash) : List VariableCall → Aftermath
  | [] => ⟨[], t, stash⟩
  | c :: rest =>
    match c.run e t stash with
    | .error error =>
      let later := runCalls e t stash rest
      { later with answers := .error error :: later.answers }
    | .ok (answer, t, stash) =>
      let later := runCalls e t stash rest
      { later with answers := .ok answer :: later.answers }

/-- Nothing that a host can ask for tells two runs from each other. -/
structure Aftermath.Indistinguishable (x y : Aftermath) : Prop where
  answers : y.answers = x.answers
  stash : y.stash = x.stash
  get : ∀ id name anyCase upward,
    y.tree.get id name anyCase upward = x.tree.get id name anyCase upward

/-- The same answer beside trees that are alike and the same stash. -/
def SameOutcome (x y : Answer × Tree × Stash) : Prop :=
  y.1 = x.1 ∧ x.2.1.Alike y.2.1 ∧ y.2.2 = x.2.2

theorem AgreeOn.answer {α : Type} {x y : Except FrameError (α × Tree)}
    (agree : AgreeOn Tree.SameAnswer x y) (answer : α → Answer) (stash : Stash) :
    AgreeOn SameOutcome ((fun x => (answer x.1, x.2, stash)) <$> x)
      ((fun x => (answer x.1, x.2, stash)) <$> y) :=
  agree.map fun _ _ related => ⟨congrArg answer related.1, related.2, rfl⟩

namespace Tree

variable {t t' : Tree} {σ : Type}

/-- A verb is in step if it is when its family of verbs is switched on. -/
theorem Alike.gated (alike : t.Alike t') (on : Bool) {x y : TreeUpdate (Bool × Tree)}
    (inStep : InStep SameAnswer x y) :
    InStep SameAnswer (if on then x else pure (false, t)) (if on then y else pure (false, t')) := by
  cases on with
  | true => exact inStep
  | false => exact inStep_pure ⟨rfl, alike⟩

/-- A call on trees that are alike has one outcome, whatever it says about the case of digits. -/
theorem Alike.run (alike : t.Alike t') (e : Engine σ) (stash : Stash) {c c' : VariableCall}
    (recased : c.Recased c') : AgreeOn SameOutcome (c.run e t stash) (c'.run e t' stash) := by
  rcases recased.exists_withCase with ⟨anyCase, rfl, same⟩
  cases c with
  | set frame name node =>
      exact AgreeOn.map (alike.set frame name node) fun _ _ alike₁ => ⟨rfl, alike₁, rfl⟩
  | unset frame name _ shift =>
      exact (alike.unset frame (same name List.mem_cons_self) shift).answer .flag stash
  | inherit frame names _ => exact AgreeOn.answer (alike.inherit frame same) .count stash
  | returnTo frame names _ => exact AgreeOn.answer (alike.returnTo frame same) .count stash
  | define call frame =>
      have inStep := alike.define frame (same call.name List.mem_cons_self)
      exact AgreeOn.answer (alike.gated e.features.define inStep) .flag stash
  | «local» call frame =>
      have inStep := alike.local frame (same call.name List.mem_cons_self)
      exact AgreeOn.answer (alike.gated e.features.define inStep) .flag stash
  | preview call frame =>
      have inStep := alike.preview frame (same call.name List.mem_cons_self)
      exact AgreeOn.answer (alike.gated e.features.define inStep) .flag stash
  | save call frame page =>
      have saved := alike.save_eq frame same e page stash
      simp only [VariableCall.withCase, VariableCall.run, saved]
      exact .ok ⟨rfl, alike, rfl⟩

/-- Runs of calls that differ in the case of digits give the same answers and stay alike. -/
theorem Alike.runCalls (alike : t.Alike t') (e : Engine σ) (stash : Stash)
    {calls calls' : List VariableCall}
    (recased : List.Forall₂ VariableCall.Recased calls calls') :
    (runCalls e t' stash calls').answers = (runCalls e t stash calls).answers ∧
      (runCalls e t stash calls).tree.Alike (runCalls e t' stash calls').tree ∧
        (runCalls e t' stash calls').stash = (runCalls e t stash calls).stash := by
  induction recased generalizing t t' stash with
  | nil => exact ⟨rfl, alike, rfl⟩
  | @cons c c' calls calls' first rest ih =>
      have agree := alike.run e stash first
      rw [TemplateVars.runCalls, TemplateVars.runCalls]
      generalize c.run e t stash = outcome, c'.run e t' stash = outcome' at agree ⊢
      cases agree with
      | error error =>
          have ⟨answers, later⟩ := ih alike stash
          exact ⟨congrArg (List.cons _) answers, later⟩
      | @ok x y related =>
          rcases x with ⟨answer, t₁, stash₁⟩
          rcases y with ⟨answer', t₁', stash₁'⟩
          rcases related with ⟨rfl, alike₁, rfl⟩
          have ⟨answers, later⟩ := ih alike₁ stash₁'
          exact ⟨congrArg (List.cons _) answers, later⟩

/--
From a tree that a render has come to, a run of calls cannot be told from one in
which calls that name nothing but digits say otherwise about case.
-/
theorem indistinguishable_of_run {title : String} {expander : Expander}
    (run : Run (ofPage title expander) t) (e : Engine σ) (stash : Stash)
    {calls calls' : List VariableCall}
    (recased : List.Forall₂ VariableCall.Recased calls calls') :
    (runCalls e t stash calls).Indistinguishable (runCalls e t stash calls') := by
  have separate := separate_of_run (coherent_ofPage title expander).separate run
  rcases separate.alike.runCalls e stash recased with ⟨answers, alike, stashes⟩
  exact ⟨answers, stashes, alike.get_eq⟩

/-- A position bound as a number and in digits, and digits that are no position. -/
def overlaid : Tree :=
  ((Call.push root "Template"
    { positional := [.text "a"], named := [("1", .text "b"), ("07", .text "c")] }).run?
    (ofPage "Page" shouting)).getD (ofPage "Page" shouting)

/-- Bind both, where case counts or does not, then close the gap of the position and save. -/
def overlaidCalls (anyCase : Bool) : List VariableCall := [
  .local { name := "1", value := some (.text "x"), options := { anyCase } } 1,
  .local { name := "07", value := some (.markup "y"), options := { anyCase } } 1,
  .unset 1 "1" anyCase true,
  .save { name := "07", value := some (.text "1"), options := { anyCase } } 1 7]

/-- After the first call one tree still has the digits that the other has dropped. -/
theorem indistinguishable_overlaid :
    let e : Engine MemoryStore := { features := {}, gateway := MemoryStore.gateway }
    let after (anyCase : Bool) (n : Nat) : Aftermath :=
      runCalls e overlaid {} ((overlaidCalls anyCase).take n)
    Run (ofPage "Page" shouting) overlaid ∧
      List.Forall₂ VariableCall.Recased (overlaidCalls false) (overlaidCalls true) ∧
      ((after false 1).tree.ref? 1 (.named "1")).isSome ∧
      (after true 1).tree.ref? 1 (.named "1") = none ∧
      (after false 4).Indistinguishable (after true 4) ∧
      (after true 4).answers =
        [.ok (.flag true), .ok (.flag true), .ok (.flag true), .ok (.count 1)] ∧
      (after true 4).tree.get 1 "07" true false = ⟨some "y!", []⟩ := by
  intro e after
  have pushed : (Call.push root "Template"
      { positional := [.text "a"], named := [("1", .text "b"), ("07", .text "c")] }).run?
      (ofPage "Page" shouting) = some overlaid := rfl
  have run : Run (ofPage "Page" shouting) overlaid := .single (.call _ pushed)
  have recased : List.Forall₂ VariableCall.Recased (overlaidCalls false) (overlaidCalls true) :=
    .cons (Or.inr ⟨by decide, true, rfl⟩) <| .cons (Or.inr ⟨by decide, true, rfl⟩) <|
      .cons (Or.inr ⟨by decide, true, rfl⟩) <| .cons (Or.inr ⟨by decide +kernel, true, rfl⟩) .nil
  have same : (after false 4).Indistinguishable (after true 4) :=
    indistinguishable_of_run run e {} recased
  have answers : (after false 4).answers =
      [.ok (.flag true), .ok (.flag true), .ok (.flag true), .ok (.count 1)] := by
    decide +kernel
  have read : (after false 4).tree.get 1 "07" true false = ⟨some "y!", []⟩ := rfl
  exact ⟨run, recased, rfl, rfl, same, same.answers.trans answers, (same.get ..).trans read⟩

end Tree

end TemplateVars
