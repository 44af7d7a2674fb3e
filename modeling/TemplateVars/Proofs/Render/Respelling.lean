import TemplateVars.Proofs.Render.Reachable
import TemplateVars.Proofs.Scope.Lookup
import TemplateVars.Proofs.Scope.Spelling

/-!
# Defining a name that is spelled differently

To define a name in any case gives an argument that is bound under another
spelling the spelling asked for. Its value is untouched, and so is what any
look-up reads for which case does not count; a look-up for which it does can tell
the old spelling and the new one apart, and nothing else.
-/

namespace TemplateVars

open TreeUpdate

namespace Tree

variable {t t' : Tree} {id : FrameId} {key : Key} {existing name : String} {f f' : Frame}

/-- A tree and the one in which an argument of a frame is spelled differently. -/
structure Respells (t : Tree) (id : FrameId) (existing name : String) (t' : Tree) : Prop where
  frame : ∃ f f', t.frame? id = some f ∧ t'.frame? id = some f' ∧ f'.parent = f.parent ∧
    f.LastSpelling name existing ∧ f.Respells existing name f'
  others : ∀ other, other ≠ id → t'.frame? other = t.frame? other
  node?_eq : ∀ key, t'.node? id key =
    if key = .named name then t.node? id (.named existing)
    else if key = .named existing then none else t.node? id key
  cached?_eq : ∀ key, key ≠ .named name → key ≠ .named existing →
    t'.cached? id key = t.cached? id key
  node?_others : ∀ other key, other ≠ id → t'.node? other key = t.node? other key
  expander_eq : t'.expander = t.expander

/-- The tables of a frame after an argument was dropped and bound again under a new name. -/
theorem exists_respell (coherent : t.Coherent) (frame : t.frame? id = some f)
    (spelled : f.LastSpelling name existing) {node : Node}
    (points : t.node? id (.named existing) = some node) :
    ∃ t', Yields (VerbCall.respell t id existing name) t' ∧ t.Respells id existing name t' := by
  have routed := Key.parse_of_word spelled.word
  have text := value_text coherent id (.named existing)
  rw [points, Option.map_some] at text
  -- the old spelling is dropped, and the node is bound again under the new one
  let t₁ : Tree := { t with frames := t.frames.modify id (·.erase (.named existing)) }
  have dropped : t.Reframes id (f.erase (.named existing)) t₁ :=
    t.reframes_modify frame (·.erase (.named existing)) t.nodes
  have frame₁ : t₁.frame? id = some (f.erase (.named existing)) := by
    rw [dropped.frame?_eq, if_pos rfl]
  have separate₁ : t₁.Separate :=
    coherent.separate.rearrange frame (f.rearranges_erase (.named existing)) dropped rfl
  have node?₁ (other : FrameId) (key : Key) : t₁.node? other key =
      if other = id ∧ key = .named existing then none else t.node? other key := by
    rw [node?, dropped.ref?_eq, node?]
    by_cases here : other = id
    · subst here
      rw [if_pos rfl, Frame.ref?_erase, ref?_of_frame? frame]
      by_cases old : key = .named existing <;> simp [old, t₁]
    · simp [here, t₁]
  rcases separate₁.valid.exists_binds frame₁ (.named name) node (t.expander.textOf node) with
    ⟨t', ref, again, b⟩
  refine ⟨t', ?_, ?_⟩
  · simp only [VerbCall.respell, yields_bind, yields_lift, exists_eq_left', points, text,
      yields_ofExcept, routed]
    rw [modifyFrame_eq_ok.2 ⟨by simp [frame], rfl⟩]
    exact again
  · have frame' := b.frame?_self
    refine ⟨⟨f, _, frame, frame', by simp, spelled, spelled.respells ..⟩, ?_, ?_, ?_, ?_,
      b.expander_eq⟩
    · intro other apart
      rw [b.frame?_eq, if_neg apart, dropped.frame?_eq, if_neg apart]
    · intro key
      rw [b.node?_eq separate₁, node?₁, points]
      simp
    · intro key new old
      simp [b.cached?_eq, dropped.cached?_eq, new, old, cached?_of_frame? frame]
    · intro other key apart
      rw [b.node?_eq separate₁, node?₁]
      simp [apart]

/-- What a call leaves that defines, in any case, a name that a frame holds at a key. -/
structure KeepsValues (t : Tree) (id : FrameId) (name : String) (key : Key) (t' : Tree) : Prop where
  /-- The spelling asked for is bound itself, to the node that was bound before. -/
  spelled : ∃ key', t'.locateLocal id name false = some key' ∧ t'.node? id key' = t.node? id key
  /-- Where case does not count, whatever is looked up from any frame reads as before. -/
  anyCase : ∀ other q upward, (t'.get other q true upward).value = (t.get other q true upward).value
  /-- Names other than the old and the new spelling read as before where case counts. -/
  exactly : ∀ other q, (other = id → q ≠ name ∧ .named q ≠ key) →
    t'.get other q false false = t.get other q false false

theorem value_get_of_own (coherent : t.Coherent) (coherent' : t'.Coherent)
    (parents : ∀ i, (t'.frame? i).map (·.parent) = (t.frame? i).map (·.parent)) {anyCase : Bool}
    (own : ∀ i q, (t'.get i q anyCase false).value = (t.get i q anyCase false).value)
    (other : FrameId) (q : String) (upward : Bool) :
    (t'.get other q anyCase upward).value = (t.get other q anyCase upward).value := by
  cases upward with
  | false => exact own other q
  | true =>
      rw [value_get_upward coherent, value_get_upward coherent',
        ancestors_congr fun i _ => parents i]
      simp only [own]

namespace Respells

variable {other : FrameId} {q : String}

theorem parents (r : t.Respells id existing name t') (i : FrameId) :
    (t'.frame? i).map (·.parent) = (t.frame? i).map (·.parent) := by
  rcases r.frame with ⟨f, f', frame, frame', parent, -, -⟩
  by_cases here : i = id
  · simp [here, frame, frame', parent]
  · rw [r.others i here]

theorem locateLocal_others (r : t.Respells id existing name t') (apart : other ≠ id)
    (anyCase : Bool) : t'.locateLocal other q anyCase = t.locateLocal other q anyCase := by
  rw [locateLocal, locateLocal, r.others other apart]

theorem locateLocal_anyCase (r : t.Respells id existing name t') (q : String) :
    t'.locateLocal id q true = (t.locateLocal id q true).map (Key.respell existing name) := by
  rcases r.frame with ⟨f, f', frame, frame', -, spelled, respells⟩
  rw [locateLocal, locateLocal, frame, frame']
  exact respells.locate_anyCase spelled q

theorem unbound (r : t.Respells id existing name t') : ¬ (t.ref? id (.named name)).isSome := by
  rcases r.frame with ⟨f, f', frame, -, -, spelled, -⟩
  rw [ref?_of_frame? frame, spelled.unbound]
  exact Bool.false_ne_true

theorem node?_respell (r : t.Respells id existing name t') (bound : (t.ref? id key).isSome) :
    t'.node? id (key.respell existing name) = t.node? id key := by
  rw [r.node?_eq, Key.respell]
  by_cases old : key = .named existing
  · simp [old]
  · have new : key ≠ .named name := by
      rintro rfl
      exact r.unbound bound
    simp [old, new]

theorem value_get_anyCase (r : t.Respells id existing name t') (coherent : t.Coherent)
    (coherent' : t'.Coherent) (other : FrameId) (q : String) :
    (t'.get other q true false).value = (t.get other q true false).value := by
  rw [value_get_own coherent, value_get_own coherent', r.expander_eq]
  by_cases here : other = id
  · subst here
    rw [r.locateLocal_anyCase, Option.bind_map]
    refine Option.bind_congr fun key located => ?_
    exact congrArg _ (r.node?_respell (ref?_of_locateLocal located))
  · rw [r.locateLocal_others here]
    simp only [r.node?_others other _ here]

theorem get_exactly (r : t.Respells id existing name t')
    (apart : other = id → q ≠ name ∧ q ≠ existing) :
    t'.get other q false false = t.get other q false false := by
  have same : t'.locateLocal other q false = t.locateLocal other q false := by
    by_cases here : other = id
    · subst here
      rcases r.frame with ⟨f, f', frame, frame', -, spelled, respells⟩
      rw [locateLocal, locateLocal, frame, frame']
      exact respells.locate_exact (apart rfl).1 (apart rfl).2
    · exact r.locateLocal_others here false
  rw [get_own, get_own, same]
  cases located : t.locateLocal other q false with
  | none => rfl
  | some key =>
      by_cases here : other = id
      · subst here
        rcases r.frame with ⟨f, -, frame, -⟩
        rw [locateLocal, frame] at located
        have own := Frame.locate_exact_eq_some located
        have elsewhere {name : String} (different : q ≠ name) : key ≠ .named name := by
          rintro rfl
          rcases own with routed | named
          · exact different (Key.parse_eq_named.1 routed.symm).1
          · exact different (Key.named.inj named).symm
        have new := elsewhere (apart rfl).1
        have old := elsewhere (apart rfl).2
        simp only [text, r.cached?_eq key new old, r.node?_eq, new, old, if_false, expand,
          r.expander_eq]
      · simp only [text, cached?, r.others other here, r.node?_others other key here, expand,
          r.expander_eq]

theorem keepsValues (r : t.Respells id existing name t') (coherent : t.Coherent)
    (coherent' : t'.Coherent) : t.KeepsValues id name (.named existing) t' where
  spelled := by
    rcases r.frame with ⟨f, f', -, frame', -, spelled, respells⟩
    refine ⟨.named name, ?_, by simp [r.node?_eq]⟩
    simp [locateLocal, frame', Frame.locate, Key.parse_of_word spelled.word,
      respells.isSome_ref?]
  anyCase := value_get_of_own coherent coherent' r.parents
    (r.value_get_anyCase coherent coherent')
  exactly := by
    intro other q apart
    exact r.get_exactly fun here => ⟨(apart here).1, fun same => (apart here).2 (congrArg _ same)⟩

end Respells

end Tree

theorem Tree.locateLocal_of_exact {t : Tree} {id : FrameId} {name : String} {key : Key}
    (located : t.locateLocal id name false = some key) (anyCase : Bool) :
    t.locateLocal id name anyCase = some key := by
  rcases Option.bind_eq_some_iff.1 located with ⟨f, frame, own⟩
  rw [locateLocal, frame, Option.bind_some]
  cases anyCase with
  | false => exact own
  | true => rw [Frame.locate_eq_or, own, Option.some_or]

namespace VerbCall

open TemplateVars.Tree

variable {t : Tree} {id : FrameId} {call : VerbCall} {key : Key}

/-- A name that is bound itself needs no definition. -/
theorem runDefine_of_exact (located : t.locateLocal id call.name false = some key) :
    call.runDefine t id = pure (false, t) := by
  rcases Option.bind_eq_some_iff.1 located with ⟨f, frame, own⟩
  rw [runDefine, locateLocal_of_exact located]
  split
  · rfl
  · cases key with
    | numbered n => rfl
    | named existing =>
        have same : existing = call.name := by
          rcases Frame.locate_exact_eq_some own with routed | named
          · exact (Key.parse_eq_named.1 routed.symm).1.symm
          · exact Key.named.inj named
        simp [same]

/-- A name that is not bound is bound to the value. -/
theorem exists_runDefine_unbound {f : Frame} (coherent : t.Coherent) (frame : t.frame? id = some f)
    (named : call.name ≠ "") (gate : call.options.gateOpen = true)
    (absent : t.locateLocal id call.name call.options.anyCase = none) :
    ∃ t' key, Yields (call.runDefine t id) (true, t') ∧
      t'.locateLocal id call.name false = some key ∧ t'.node? id key = some call.valueNode := by
  rcases exists_set coherent.valid frame call.name call.valueNode with ⟨t', ref, set, b⟩
  refine ⟨t', Key.parse call.name, ?_, ?_, ?_⟩
  · simp only [runDefine, named, gate, absent, Bool.true_eq_false, or_self, if_false, yields_map]
    exact ⟨t', set, rfl⟩
  · simp [locateLocal_exact, b.ref?_eq]
  · rw [b.node?_eq coherent.separate, if_pos ⟨rfl, rfl⟩]

/--
On a tree that a render has come to, to define a name in any case changes at most
its spelling where it is bound, and binds it where it is not. To define it again
changes nothing.
-/
theorem define_anyCase_of_reachable {expander : Expander} (reached : Reachable expander t)
    (there : (t.frame? id).isSome) (named : call.name ≠ "")
    (gate : call.options.gateOpen = true) (any : call.options.anyCase = true) :
    ∃ changed t', Yields (call.runDefine t id) (changed, t') ∧
      Yields (call.runDefine t' id) (false, t') ∧
      match t.locateLocal id call.name true with
      | some key => changed = false ∧ t.KeepsValues id call.name key t'
      | none => changed = true ∧ ∀ anyCase upward,
          (t'.get id call.name anyCase upward).value = some (expander.textOf call.valueNode) := by
  rcases reached.coherent with ⟨coherent, rfl⟩
  rcases Option.isSome_iff_exists.1 there with ⟨f, frame⟩
  cases located : t.locateLocal id call.name true with
  | none =>
      rcases exists_runDefine_unbound coherent frame named gate (any ▸ located) with
        ⟨t', key, ran, own, points⟩
      have updates := updates_define ran
      refine ⟨true, t', ran, ?_, rfl, ?_⟩
      · rw [runDefine_of_exact own, yields_pure]
      · intro anyCase upward
        rw [get_of_locateLocal (locateLocal_of_exact own anyCase),
          value_text (updates.coherent coherent), points, updates.expander_eq]
        rfl
  | some key =>
      have own := located
      rw [locateLocal, frame, Option.bind_some] at own
      rcases Frame.locate_cases own with same | ⟨existing, rfl, spelled⟩
      · -- bound under this very spelling: nothing happens
        have bound : t.locateLocal id call.name false = some key := by
          rw [locateLocal, frame]
          exact same
        have idle : Yields (call.runDefine t id) (false, t) := by
          rw [runDefine_of_exact bound, yields_pure]
        exact ⟨false, t, idle, idle, rfl,
          ⟨⟨key, bound, rfl⟩, fun _ _ _ => rfl, fun _ _ _ => rfl⟩⟩
      · rcases exists_node_of_locateLocal coherent located with ⟨node, points⟩
        rcases exists_respell coherent frame spelled points with ⟨t', respelled, r⟩
        have ran : Yields (call.runDefine t id) (false, t') := by
          simp only [runDefine, named, gate, any, located, Bool.true_eq_false, or_self, if_false,
            true_and, spelled.apart, ne_eq, not_false_eq_true, if_true, yields_map]
          exact ⟨t', respelled, rfl⟩
        have keeps := r.keepsValues coherent ((updates_define ran).coherent coherent)
        rcases keeps.spelled with ⟨key', bound, -⟩
        refine ⟨false, t', ran, ?_, rfl, keeps⟩
        rw [runDefine_of_exact bound, yields_pure]

/-- A page that binds two spellings of a name. -/
def twoSpellings : Tree :=
  ((Call.set root "Foo" (.text "a")).run? (ofPage "Page" shouting)).bind
    (Call.set root "fOO" (.markup "b")).run? |>.getD (ofPage "Page" shouting)

/-- Defines a third spelling of the name in any case. -/
def defineThird : VerbCall where
  name := "FOO"
  value := some (.text "c")
  options := { anyCase := true }

/-- The spelling that came last becomes the third one, and every spelling still reads the same. -/
theorem define_anyCase_twoSpellings :
    Reachable shouting twoSpellings ∧ ∃ t',
      Yields (defineThird.runDefine twoSpellings root) (false, t') ∧
        twoSpellings.KeepsValues root "FOO" (.named "fOO") t' ∧
        (t'.get root "foo" true false).value = some "b!" ∧
        (t'.get root "Foo" false false).value = some "a" := by
  let first : Tree := ((Call.set root "Foo" (.text "a")).run? (ofPage "Page" shouting)).getD
    (ofPage "Page" shouting)
  have set : Yields ((ofPage "Page" shouting).set root "Foo" (.text "a")) first := rfl
  have set' : Yields (first.set root "fOO" (.markup "b")) twoSpellings := rfl
  have reached : Reachable shouting twoSpellings := ((Reachable.page "Page").step (.set set)).step
    (.set set')
  have located : twoSpellings.locateLocal root defineThird.name true = some (.named "fOO") := by
    decide +kernel
  have there : (twoSpellings.frame? root).isSome := rfl
  have named : defineThird.name ≠ "" := by decide
  rcases define_anyCase_of_reachable reached there named rfl rfl with ⟨changed, t', ran, -, outcome⟩
  rw [located] at outcome
  rcases outcome with ⟨rfl, keeps⟩
  refine ⟨reached, t', ran, keeps, ?_, ?_⟩
  · rw [keeps.anyCase]
    decide +kernel
  · rw [keeps.exactly root "Foo" fun _ => ⟨by decide, by decide⟩]
    rfl

end VerbCall

end TemplateVars
