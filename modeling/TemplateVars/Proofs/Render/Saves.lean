import TemplateVars.Proofs.Render.Flush
import TemplateVars.Proofs.Scope.Tree

/-!
# What a render saves

Saving copies variables of a frame into the stash of a render, under names that
are cut to the width of storage keys. Names that become the same share a place,
so that what the stash holds in the end is what was saved last.
-/

namespace TemplateVars

/-- The stored name of the set that a call is about. -/
def VerbCall.setKey (call : VerbCall) : String := truncateName (call.options.setName.getD "")

/-- A call of `save` in the course of a render. -/
structure SaveCall where
  call : VerbCall
  tree : Tree
  frame : FrameId
  page : PageId

namespace SaveCall

variable (s : SaveCall)

/-- What a name is saved as: the text it reads as or, with `savemarkup`, the node it is bound to. -/
def value? (name : String) : Option Variable :=
  let options := s.call.options
  if options.saveMarkup then
    ((s.tree.locateLocal s.frame name options.anyCase).bind (s.tree.node? s.frame)).map .ofNode
  else (s.tree.get s.frame name options.anyCase false).value.map .text

/-- The variables that a call saves, by the names that it gives. -/
def captured : List (String × Variable) :=
  s.call.names.filterMap fun name => (s.value? name).map fun v => (name, v)

/-- The variables that a call saves, by stored name. -/
def entries : List (String × Variable) :=
  s.call.names.filterMap fun name => (s.value? name).map fun v => (truncateName name, v)

end SaveCall

/-- The variable that a render has gathered so far under two stored names. -/
def Stash.gathered? (stash : Stash) (set name : String) : Option Variable :=
  (stash.get? savedSetsKey).bind (·.stored? set name)

namespace Engine

variable {σ : Type} (e : Engine σ)

/-- What a call writes into a set, if it is let run. -/
def writes (set : String) (s : SaveCall) : List (String × Variable) :=
  if e.features.data && s.call.options.gateOpen && s.call.setKey == set then s.entries else []

/-- The last variable that some calls write into a set under a stored name. -/
def lastSaved (saves : List SaveCall) (set name : String) : Option Variable :=
  SortedMap.lookup name (saves.flatMap (e.writes set)).reverse

/-- The stash that a render leaves which starts with some stash and makes some calls. -/
def gather (saves : List SaveCall) (stash : Stash) : Stash :=
  saves.foldl (fun stash s => (e.save s.call s.tree s.frame s.page stash).value.2) stash

end Engine

namespace SaveCall

variable (s : SaveCall)

theorem entries_eq_map : s.entries = s.captured.map fun e => (truncateName e.1, e.2) := by
  rw [captured, List.map_filterMap]
  simp [entries, Function.comp_def]

theorem value_capture (name : String) :
    (Engine.capture s.tree s.frame s.call.options name).value = s.value? name := by
  rw [Engine.capture, value?, Tree.get, Tree.locate_own]
  cases s.tree.locateLocal s.frame name s.call.options.anyCase with
  | none => simp
  | some key =>
      cases s.call.options.saveMarkup <;> simp

theorem value_captureAll :
    (Engine.captureAll s.tree s.frame s.call.options s.call.names).value = s.captured := by
  have each (names : List String) :
      (Engine.captureAll s.tree s.frame s.call.options names).value =
        names.filterMap fun name => (s.value? name).map fun v => (name, v) := by
    induction names with
    | nil => rfl
    | cons name names ih =>
        simp only [Engine.captureAll, Expanding.value_bind, Expanding.value_pure, value_capture, ih]
        cases found : s.value? name <;> simp [found]
  exact each s.call.names

end SaveCall

theorem SetCollection.stored?_modifySet (c : SetCollection) (set : String)
    (change : VariableSet → VariableSet) (key name : String) :
    (c.modifySet set change).stored? key name =
      if key = truncateName set then (change (c.setOrNew set)).get? name
      else c.stored? key name := by
  rw [stored?, modifySet, SortedMap.find?_insert]
  split <;> rfl

theorem SetCollection.get?_setOrNew (c : SetCollection) (set name : String) :
    (c.setOrNew set).get? name = c.stored? (truncateName set) name := by
  rw [setOrNew, stored?]
  cases c.sets.find? (truncateName set) <;> rfl

namespace Engine

variable {σ : Type} (e : Engine σ)

/-- A call of `save` that captures something changes a set of what was gathered before. -/
theorem value_save (s : SaveCall) (stash : Stash) :
    (e.save s.call s.tree s.frame s.page stash).value =
      if e.features.data && s.call.options.gateOpen && !s.captured.isEmpty then
        (s.captured.length, stash.put savedSetsKey
          (((stash.get? savedSetsKey).getD { pageId := s.page, revId := 0 }).modifySet
            (s.call.options.setName.getD "") (·.insertAll s.captured)))
      else (0, stash) := by
  rw [save]
  cases runs : e.features.data && s.call.options.gateOpen with
  | false =>
      have stays : (!e.features.data || !s.call.options.gateOpen) = true := by
        rw [← Bool.not_and, runs]
        rfl
      simp [stays]
  | true =>
      have starts : (!e.features.data || !s.call.options.gateOpen) = false := by
        rw [← Bool.not_and, runs]
        rfl
      rw [starts, if_neg Bool.false_ne_true, Expanding.value_bind, s.value_captureAll]
      cases s.captured.isEmpty <;> rfl

/-- A call of `save` lays what it writes over what was gathered before. -/
theorem gathered?_save (s : SaveCall) (stash : Stash) (set name : String) :
    ((e.save s.call s.tree s.frame s.page stash).value.2).gathered? set name =
      (SortedMap.lookup name (e.writes set s).reverse).or (stash.gathered? set name) := by
  rw [value_save, writes, s.entries_eq_map]
  cases e.features.data && s.call.options.gateOpen with
  | false => simp [SortedMap.lookup]
  | true =>
      cases nothing : s.captured.isEmpty with
      | true => simp [List.isEmpty_iff.1 nothing, SortedMap.lookup]
      | false =>
          have before (key : String) : ((stash.get? savedSetsKey).getD
              { pageId := s.page, revId := 0 }).stored? key name = stash.gathered? key name := by
            rw [Stash.gathered?]
            cases stash.get? savedSetsKey <;> rfl
          change Option.bind ((stash.put savedSetsKey _).get? savedSetsKey) _ = _
          rw [Stash.get?_put, Option.bind_some, SetCollection.stored?_modifySet,
            VariableSet.get?_insertAll, SetCollection.get?_setOrNew, before, before,
            ← VerbCall.setKey]
          by_cases own : set = s.call.setKey
          · subst own
            simp
          · have apart : (s.call.setKey == set) = false := by simpa using Ne.symm own
            rw [if_neg own, apart]
            simp [SortedMap.lookup]

/-- What a render has gathered after some calls is what it saved last, or had gathered before. -/
theorem gathered?_gather (saves : List SaveCall) (stash : Stash) (set name : String) :
    (e.gather saves stash).gathered? set name =
      (e.lastSaved saves set name).or (stash.gathered? set name) := by
  induction saves generalizing stash with
  | nil => rfl
  | cons s saves ih =>
      rw [gather, List.foldl_cons, ← gather, ih, gathered?_save, ← Option.or_assoc]
      rw [lastSaved, lastSaved, List.flatMap_cons, List.reverse_append, SortedMap.lookup_append]

theorem gathered_gather (saves : List SaveCall) : (e.gather saves {}).Gathered := by
  have fit (stash : Stash) (gathered : stash.Gathered) : (e.gather saves stash).Gathered := by
    induction saves generalizing stash with
    | nil => exact gathered
    | cons s saves ih => exact ih _ (e.save_gathered s.call s.tree s.frame s.page gathered)
  refine fit {} ?_
  intro c kept
  simp [Stash.get?] at kept

end Engine

end TemplateVars
