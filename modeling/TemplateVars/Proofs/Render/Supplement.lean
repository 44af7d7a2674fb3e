import TemplateVars.Proofs.Render.Isolation
import TemplateVars.Proofs.Render.RoundTrip
import TemplateVars.Proofs.Scope.Lookup

/-!
# Loading fills gaps

Loading takes stored variables one after another and binds those that a frame
lacks, each of them tested against a frame that has grown by the ones before. A
name that is not found gets in the way of none that is, so the frame holds what
it held, in the same place. In the end it holds all of the variables, and
loading them once more binds nothing.
-/

namespace TemplateVars

open TreeUpdate

namespace Tree

variable {t t' t'' : Tree} {id : FrameId} {f : Frame} {name : String} {anyCase : Bool}
  {vars : List (String × Variable)}

/-- What a frame holds it holds in another tree, in any case only if that is asked for. -/
def Retains (t : Tree) (id : FrameId) (anyCase : Bool) (t' : Tree) : Prop :=
  ∀ name inCase key, (inCase = true → anyCase = true) → t.locateLocal id name inCase = some key →
    t'.locateLocal id name inCase = some key ∧ t.Carries id key t' key

theorem Retains.refl (t : Tree) (id : FrameId) (anyCase : Bool) : t.Retains id anyCase t :=
  fun _ _ key _ located => ⟨located, .refl t id key⟩

theorem Retains.trans (first : t.Retains id anyCase t') (second : t'.Retains id anyCase t'') :
    t.Retains id anyCase t'' := by
  intro name inCase key within located
  rcases first name inCase key within located with ⟨between, carried⟩
  rcases second name inCase key within between with ⟨later, carried'⟩
  exact ⟨later, carried.trans carried'⟩

theorem Binds.retains {node : Node} {text : String} {ref : NodeRef}
    (b : t.Binds id (Key.parse name) node text f ref t') (separate : t.Separate)
    (free : t.locateLocal id name anyCase = none) : t.Retains id anyCase t' := by
  intro other inCase key within located
  have frame := b.frame?_self
  rw [locateLocal, b.frame, Option.bind_some] at free located
  constructor
  · rw [locateLocal, frame, Option.bind_some]
    exact Frame.locate_insert free within located ref text
  · apply b.carries separate
    rintro ⟨-, rfl⟩
    -- what is located is bound, and the name would have been found by its own key
    have bound := (Frame.answers_of_locate located).2
    have found : (f.locate name anyCase).isSome :=
      Frame.isSome_locate_iff.2 ⟨Key.parse name, Or.inl rfl, bound⟩
    rw [free] at found
    cases found

/-- Variables are bound one after another until a frame holds them all. -/
theorem exists_retains (separate : t.Separate) (frame : t.frame? id = some f) (anyCase : Bool)
    (vars : List (String × Variable)) :
    ∃ n t', Yields (Engine.bindMissing anyCase id t vars) (n, t') ∧ t.Retains id anyCase t' ∧
      (∀ e ∈ vars, (t'.locateLocal id e.1 anyCase).isSome) ∧ (n = 0 ↔ t' = t) := by
  induction vars generalizing t f with
  | nil => exact ⟨0, t, yields_pure.2 rfl, .refl t id anyCase, nofun, by simp⟩
  | cons e vars ih =>
      rcases e with ⟨name, v⟩
      cases located : t.locateLocal id name anyCase with
      | some key =>
          rcases ih separate frame with ⟨n, t', ran, retains, held, idle⟩
          refine ⟨n, t', ?_, retains, ?_, idle⟩
          · rw [Engine.bindMissing, located]
            exact ran
          · rw [List.forall_mem_cons]
            refine ⟨?_, held⟩
            rw [(retains name anyCase key (fun any => any) located).1]
            rfl
      | none =>
          rcases exists_set separate.valid frame name v.toNode with ⟨t₁, ref, set, b⟩
          have located₁ := locateLocal_of_ref? b.isSome_ref? anyCase
          rcases ih (b.separate separate) b.frame?_self with ⟨n, t', ran, retains, held, -⟩
          have located' := (retains name anyCase _ (fun any => any) located₁).1
          refine ⟨n + 1, t', ?_, (b.retains separate located).trans retains, ?_, ?_⟩
          · rw [Engine.bindMissing, located]
            simp only [Option.isSome_none, Bool.false_eq_true, if_false, yields_bind, yields_pure]
            exact ⟨t₁, set, (n, t'), ran, rfl⟩
          · rw [List.forall_mem_cons]
            exact ⟨by rw [located']; rfl, held⟩
          · refine ⟨fun counted => absurd counted n.succ_ne_zero, ?_⟩
            rintro rfl
            rw [located] at located'
            cases located'

/-- Where a frame holds all of the variables there is nothing to bind. -/
theorem bindMissing_of_held (held : ∀ e ∈ vars, (t.locateLocal id e.1 anyCase).isSome) :
    Engine.bindMissing anyCase id t vars = pure (0, t) := by
  induction vars with
  | nil => rfl
  | cons e vars ih =>
      rw [List.forall_mem_cons] at held
      rw [Engine.bindMissing, if_pos held.1, ih held.2]

/--
A frame before and after some variables are loaded into it: each of them can be
found, whatever the frame read under a name it still reads, in any case too if
that is how they are loaded, and the other frames are left alone.
-/
structure FillsGaps (t : Tree) (id : FrameId) (anyCase : Bool) (vars : List (String × Variable))
    (n : Nat) (t' : Tree) : Prop where
  filled : ∀ e ∈ vars, (t'.get id e.1 anyCase false).value.isSome
  kept : ∀ name inCase, (inCase = true → anyCase = true) →
    (t.get id name inCase false).value.isSome →
      t'.get id name inCase false = t.get id name inCase false
  others : ∀ other ≠ id,
    t'.frame? other = t.frame? other ∧ ∀ key, t'.node? other key = t.node? other key
  count : n = 0 ↔ t' = t

theorem Retains.fillsGaps {n : Nat} (retains : t.Retains id anyCase t') (separate : t.Separate)
    (updates : t.Updates id t') (held : ∀ e ∈ vars, (t'.locateLocal id e.1 anyCase).isSome)
    (idle : n = 0 ↔ t' = t) : t.FillsGaps id anyCase vars n t' where
  filled := by
    intro e listed
    rw [isSome_get_iff (updates.separate separate), locate_own, Option.isSome_map]
    exact held e listed
  kept := by
    intro name inCase within read
    rw [isSome_get_iff separate, locate_own, Option.isSome_map] at read
    rcases Option.isSome_iff_exists.1 read with ⟨key, located⟩
    rcases retains name inCase key within located with ⟨still, carried⟩
    rw [get_of_locateLocal still, get_of_locateLocal located, carried.text_eq]
  others := by
    intro other apart
    exact (updates.confined separate).others separate apart
  count := idle

end Tree

/-! ### Gateways that answer again -/

namespace Gateway

/-- A gateway that answers a question that it has just answered in the same way. -/
def Steady {σ : Type} (g : Gateway σ) : Prop :=
  ∀ page set names found state after,
    (g.loadFiltered page set names).run.run state = (.ok found, after) →
      ∃ later, (g.loadFiltered page set names).run.run after = (.ok found, later)

/-- The gateways of the stores. -/
inductive OfStore : {σ : Type} → Gateway σ → Prop
  | memory : OfStore MemoryStore.gateway
  | directory (s : DirectoryStore) : OfStore s.gateway

end Gateway

namespace DirectoryStore

open TemplateVars.Action

/-- A record is loaded again, also if the store has an empty path and thus can hold none. -/
theorem exists_loadRecord_again {s : DirectoryStore} {page : PageId} {h h' : Host}
    {stored : Option PageRecord} (loaded : (s.loadRecord page).run.run h = (.ok stored, h')) :
    ∃ h'', (s.loadRecord page).run.run h' = (.ok stored, h'') := by
  by_cases named : s.root.text = ""
  · have missing (d : Disk) : d.pathExists s.root = false := by
      rw [← Bool.not_eq_true, Disk.pathExists_iff]
      rintro ⟨e, found⟩
      rcases Disk.readEntry_eq_ok.1 found with ⟨place, located, -⟩
      simp [Disk.locate, Disk.follow, named] at located
    have nothing (h : Host) : (s.loadRecord page).run.run h = (.ok none, h) := by
      rw [loadRecord, run_get_bind, missing]
      rfl
    rw [nothing, Prod.mk.injEq] at loaded
    exact ⟨h', by rw [nothing, loaded.1]⟩
  · exact rereads_of_loadRecord named loaded

end DirectoryStore

theorem Gateway.OfStore.steady {σ : Type} {g : Gateway σ} (store : g.OfStore) : g.Steady := by
  intro page set names found state after ran
  cases store with
  | memory =>
      rw [MemoryStore.run_loadFiltered, Prod.mk.injEq] at ran
      exact ⟨after, by rw [MemoryStore.run_loadFiltered, ← ran.2, ran.1]⟩
  | directory s =>
      rcases Action.run_bind_eq_ok.1 ran with ⟨stored, h, loaded, filtered⟩
      cases filtered
      rcases DirectoryStore.exists_loadRecord_again loaded with ⟨later, again⟩
      exact ⟨later, DirectoryStore.run_loadFiltered again set names⟩

namespace Engine

variable {σ : Type} {call : VerbCall} {page : PageId} {state after : σ}

/-- What a call of `load` is given to bind, which is nothing unless it is let through. -/
def offered (e : Engine σ) (call : VerbCall) (page : PageId) (state : σ) :
    Except StoreError (List (String × Variable)) × σ :=
  if !e.features.data || !call.options.gateOpen then (.ok [], state)
  else
    let set := call.options.setName.getD ""
    let (answer, state) := (e.gateway.loadFiltered page set call.names).run.run state
    (answer.map fun vars => vars.elim [] (·.toList), state)

theorem load_eq (e : Engine σ) (call : VerbCall) (t : Tree) (frame : FrameId) (page : PageId)
    (state : σ) :
    e.load call t frame page state =
      match e.offered call page state with
      | (.error error, state) => (pure (.error (.store error)), state)
      | (.ok vars, state) =>
        (Except.mapError .frame <$> (bindMissing call.options.anyCase frame t vars).run,
          state) := by
  rw [load, offered]
  split
  · rfl
  · simp only
    rcases (e.gateway.loadFiltered page (call.options.setName.getD "") call.names).run.run state
      with ⟨_ | _ | vars, state⟩ <;> rfl

/-- With a store behind the gateway, what is offered once is offered again. -/
theorem exists_offered_again {e : Engine σ} (store : e.gateway.OfStore)
    {vars : List (String × Variable)} (offers : e.offered call page state = (.ok vars, after)) :
    ∃ later, e.offered call page after = (.ok vars, later) := by
  rw [offered] at offers ⊢
  by_cases shut : (!e.features.data || !call.options.gateOpen) = true
  · rw [if_pos shut] at offers ⊢
    exact ⟨after, by cases offers; rfl⟩
  · rw [if_neg shut] at offers ⊢
    simp only at offers ⊢
    rcases answer : (e.gateway.loadFiltered page (call.options.setName.getD "")
      call.names).run.run state with ⟨error | found, after'⟩
    · rw [answer] at offers
      cases offers
    · rw [answer] at offers
      cases offers
      rcases store.steady _ _ _ _ _ _ answer with ⟨later, again⟩
      exact ⟨later, by rw [again]; rfl⟩

end Engine

namespace Tree

variable {t : Tree} {id : FrameId}

/--
Whatever the gateway is and in whatever state, loading into a frame that a
render has come to fills gaps, unless the stored variables cannot be read. With
a store behind the gateway, loading them again binds nothing.
-/
theorem fillsGaps_of_run {title : String} {expander : Expander}
    (run : Run (ofPage title expander) t) (there : (t.frame? id).isSome) {σ : Type}
    (e : Engine σ) (call : VerbCall) (page : PageId) (state : σ) :
    match e.offered call page state with
    | (.error error, after) =>
      (e.load call t id page state).1.value = .error (.store error) ∧
        (e.load call t id page state).2 = after
    | (.ok vars, after) =>
      ∃ n t', (e.load call t id page state).1.value = .ok (n, t') ∧
        (e.load call t id page state).2 = after ∧
        t.FillsGaps id call.options.anyCase vars n t' ∧
        (e.gateway.OfStore → (e.load call t' id page after).1.value = .ok (0, t')) := by
  rcases Option.isSome_iff_exists.1 there with ⟨f, frame⟩
  have separate := separate_of_run (coherent_ofPage title expander).separate run
  rw [Engine.load_eq]
  rcases offers : e.offered call page state with ⟨error | vars, after⟩
  · exact ⟨rfl, rfl⟩
  · rcases exists_retains separate frame call.options.anyCase vars with
      ⟨n, t', ran, retains, held, idle⟩
    have updates := (rebinds_bindMissing ran).toUpdates
    refine ⟨n, t', ?_, rfl, retains.fillsGaps separate updates held idle, fun store => ?_⟩
    · rw [Yields] at ran
      rw [Expanding.value_map, ran]
      rfl
    · rcases Engine.exists_offered_again store offers with ⟨later, again⟩
      rw [Engine.load_eq, again]
      simp only [bindMissing_of_held held]
      rfl

/-- A page that binds a variable in another spelling than one that is stored. -/
def capitalized : Tree :=
  ((Call.set root "X" (.markup "m")).run? (ofPage "Page" shouting)).getD (ofPage "Page" shouting)

/-- Of two stored variables the page lacks one, and keeps its own in place of the other. -/
theorem fillsGaps_capitalized :
    let e : Engine MemoryStore := { features := {}, gateway := MemoryStore.gateway }
    let m := (e.flush (e.gather Engine.savedTwice {}) 7 3 ⟨2024, 1, 1, 0, 0, 0, 0⟩ {}).2.2
    let all : VerbCall := { name := "", options := { anyCase := true } }
    let vars : List (String × Variable) := [("1", .text "a"), ("x", .needsParse "d")]
    Run (ofPage "Page" shouting) capitalized ∧ (capitalized.frame? root).isSome ∧
      e.offered all 7 m = (.ok vars, m) ∧
      ∃ t', (e.load all capitalized root 7 m).1.value = .ok (1, t') ∧
        capitalized.FillsGaps root true vars 1 t' ∧
        t'.get root "x" true false = ⟨some "m!", []⟩ ∧
        (e.load all t' root 7 m).1.value = .ok (0, t') := by
  intro e m all vars
  have set : (Call.set root "X" (.markup "m")).run? (ofPage "Page" shouting) =
    some capitalized := rfl
  have run : Run (ofPage "Page" shouting) capitalized := .single (.call _ set)
  have there : (capitalized.frame? root).isSome := rfl
  have offers : e.offered all 7 m = (.ok vars, m) := by
    decide +kernel
  have counted : (e.load all capitalized root 7 m).1.value.toOption.map (·.1) = some 1 := by
    decide +kernel
  have visible : capitalized.get root "x" true false = ⟨some "m!", []⟩ := rfl
  have loads := fillsGaps_of_run run there e all 7 m
  rw [offers] at loads
  rcases loads with ⟨n, t', loaded, -, fills, again⟩
  rw [loaded] at counted
  cases counted
  refine ⟨run, there, offers, t', loaded, fills, ?_, again .memory⟩
  rw [fills.kept "x" true id (by rw [visible]; rfl), visible]

end Tree

end TemplateVars
