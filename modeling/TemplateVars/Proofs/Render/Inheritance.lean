import TemplateVars.Proofs.Render.Isolation
import TemplateVars.Proofs.Scope.Lookup

/-!
# Inheriting and returning

Variables are copied one after another, each looked up in the tree that the
copies before it have left. A copy changes its target only, and what is copied
is never found there: a frame inherits from frames that come before it, and
returns to one. So every name is copied as it was when the call began, and
neither the order of the names nor their repetition counts.
-/

namespace TemplateVars.Tree

open TreeUpdate

variable {t t' t'' : Tree} {id target owner : FrameId} {key : Key} {f : Frame}
  {names names' : List String} {source : String → Option (FrameId × Key)} {name : String}
  {n n' : Nat}

/-- What becomes of a tree when what `source` locates of some names is copied into a frame. -/
structure Copies (t : Tree) (source : String → Option (FrameId × Key)) (names : List String)
    (target : FrameId) (n : Nat) (t' : Tree) : Prop where
  count : n = names.countP fun name => (source name).isSome
  copied : ∀ name ∈ names, ∀ owner key, source name = some (owner, key) →
    (t'.node? target (Key.parse name) = t.node? owner key ∧ (t.node? owner key).isSome) ∧
      t'.cached? target (Key.parse name) = (t.text owner key).value ∧
      (t.text owner key).value.isSome
  kept : ∀ key, (∀ name ∈ names, (source name).isSome → key ≠ Key.parse name) →
    t.Carries target key t' key

namespace Copies

theorem skip (copies : t.Copies source names target n t') (absent : source name = none) :
    t.Copies source (name :: names) target n t' where
  count := by simp [copies.count, absent]
  copied := by
    intro m listed owner key located
    rcases List.mem_cons.1 listed with rfl | later
    · rw [absent] at located
      cases located
    · exact copies.copied m later owner key located
  kept key free := copies.kept key fun m later => free m (List.mem_cons_of_mem _ later)

/-- A copy of one name, and then of the others out of frames that it has not changed. -/
theorem cons {node : Node} {text : String} {ref : NodeRef}
    (b : t.Binds target (Key.parse name) node text f ref t') (separate : t.Separate)
    (located : source name = some (owner, key)) (points : t.node? owner key = some node)
    (reads : (t.text owner key).value = some text)
    (carries : ∀ m i k, source m = some (i, k) → t.Carries i k t' k)
    (copies : t'.Copies source names target n t'') :
    t.Copies source (name :: names) target (n + 1) t'' where
  count := by simp [copies.count, located]
  copied := by
    intro m listed i k found
    by_cases later : m ∈ names
    · have last := copies.copied m later i k found
      rwa [(carries m i k found).node?_eq, (carries m i k found).text_eq] at last
    · -- the name comes first and not again, so that its binding is left alone
      have first : m = name := (List.mem_cons.1 listed).resolve_right later
      subst first
      rw [located] at found
      cases found
      have kept := copies.kept (Key.parse m) fun other listed' _ same =>
        later (Key.parse_injective same ▸ listed')
      rw [kept.node?_eq, kept.cached?_eq, b.node?_eq separate, b.cached?_eq, if_pos ⟨rfl, rfl⟩,
        if_pos ⟨rfl, rfl⟩, points, reads]
      exact ⟨⟨rfl, rfl⟩, rfl, rfl⟩
  kept := by
    intro key' free
    have first := free name List.mem_cons_self (by simp [located])
    exact (b.carries separate fun here => first here.2).trans
      (copies.kept key' fun m later => free m (List.mem_cons_of_mem _ later))

end Copies

/-- What is bound can be copied into any frame that exists. -/
theorem exists_copy (separate : t.Separate) (frame : t.frame? target = some f)
    (bound : (t.ref? owner key).isSome) (name : String) :
    ∃ t' ref node text, t.node? owner key = some node ∧ (t.text owner key).value = some text ∧
      Yields (t.copy (owner, key) target name) t' ∧
        t.Binds target (Key.parse name) node text f ref t' := by
  rcases separate.valid.exists_node bound with ⟨node, points⟩
  rcases Option.isSome_iff_exists.1 ((isSome_text_iff separate).2 bound) with ⟨text, reads⟩
  rcases separate.valid.exists_binds frame (Key.parse name) node text with ⟨t', ref, copied, b⟩
  refine ⟨t', ref, node, text, points, reads, ?_, b⟩
  simp only [copy, points, yields_bind, yields_lift, yields_ofExcept, reads, exists_eq_left',
    Option.getD_some]
  exact copied

/-- Where names are located does not hang on a frame, and none is located there. -/
structure LocatesApart (locate : Tree → String → Option (FrameId × Key)) (target : FrameId)
    (t : Tree) : Prop where
  steady : ∀ t' : Tree, (∀ i ≠ target, t'.frame? i = t.frame? i) → locate t' = locate t
  apart : ∀ name owner key, locate t name = some (owner, key) →
    owner ≠ target ∧ (t.ref? owner key).isSome

theorem LocatesApart.after {locate : Tree → String → Option (FrameId × Key)}
    (locates : LocatesApart locate target t) (confined : t.Confined target t') :
    LocatesApart locate target t' := by
  have same : locate t' = locate t := locates.steady t' confined.frame?_eq
  refine ⟨?_, ?_⟩
  · intro t'' frames
    rw [same]
    exact locates.steady t'' fun i away => (frames i away).trans (confined.frame?_eq i away)
  · intro name owner key located
    rw [same] at located
    rcases locates.apart name owner key located with ⟨away, bound⟩
    exact ⟨away, by rwa [confined.ref?_eq away]⟩

/-- Names that are located elsewhere are copied as they are located at first. -/
theorem exists_copyAll {locate : Tree → String → Option (FrameId × Key)} (separate : t.Separate)
    (frame : t.frame? target = some f) (locates : LocatesApart locate target t)
    (names : List String) :
    ∃ n t', Yields (copyAll locate target t names) (n, t') ∧
      t.Copies (locate t) names target n t' := by
  induction names generalizing t f with
  | nil => exact ⟨0, t, yields_pure.2 rfl, rfl, nofun, fun key _ => .refl t target key⟩
  | cons name names ih =>
      cases located : locate t name with
      | none =>
          rcases ih separate frame locates with ⟨n, t', ran, copies⟩
          refine ⟨n, t', ?_, copies.skip located⟩
          rw [copyAll, located]
          exact ran
      | some place =>
          rcases place with ⟨owner, key⟩
          rcases exists_copy separate frame (locates.apart name owner key located).2 name with
            ⟨t₁, ref, node, text, points, reads, copied, b⟩
          have updates := (rebinds_copy copied).toUpdates
          have confined := updates.confined separate
          have frame₁ := b.frame?_self
          rcases ih (updates.separate separate) frame₁ (locates.after confined) with
            ⟨n, t', ran, copies⟩
          rw [locates.steady t₁ confined.frame?_eq] at copies
          refine ⟨n + 1, t', ?_, .cons b separate located points reads ?_ copies⟩
          · rw [copyAll, located]
            simp only [yields_bind, yields_pure]
            exact ⟨t₁, copied, (n, t'), ran, rfl⟩
          · intro m i k found
            exact updates.carries separate (locates.apart m i k found).1 k

namespace Copies

theorem get_copied (copies : t.Copies source names target n t') (listed : name ∈ names)
    (located : source name = some (owner, key)) :
    t'.locateLocal target name false = some (Key.parse name) ∧
      t'.get target name false false = pure (t.text owner key).value := by
  rcases copies.copied name listed owner key located with ⟨⟨node, points⟩, cached, reads⟩
  have bound : (t'.ref? target (Key.parse name)).isSome := by
    rw [← node] at points
    rcases Option.isSome_iff_exists.1 points with ⟨_, found⟩
    rcases Option.bind_eq_some_iff.1 found with ⟨ref, own, -⟩
    simp [own]
  have own := locateLocal_of_ref? bound false
  refine ⟨own, ?_⟩
  rcases Option.isSome_iff_exists.1 reads with ⟨text, known⟩
  rw [get_of_locateLocal own, Tree.text, cached, known]

theorem get_kept (copies : t.Copies source names target n t')
    (free : name ∈ names → source name = none) :
    t'.get target name false false = t.get target name false false := by
  refine get_exactly_of_carries fun key answers => copies.kept key ?_
  intro m listed located
  apply answers.ne_parse
  rintro rfl
  simp [free listed] at located

/-- The same names in another order, or more than once, leave all that is read the same. -/
theorem get_eq (copies : t.Copies source names target n t')
    (copies' : t.Copies source names' target n' t'')
    (members : ∀ name, name ∈ names' ↔ name ∈ names) (name : String) :
    t''.get target name false false = t'.get target name false false := by
  by_cases taken : name ∈ names ∧ (source name).isSome
  · rcases Option.isSome_iff_exists.1 taken.2 with ⟨⟨owner, key⟩, located⟩
    rw [(copies.get_copied taken.1 located).2,
      (copies'.get_copied ((members name).2 taken.1) located).2]
  · have free (listed : name ∈ names) : source name = none := by
      simpa using fun located => taken ⟨listed, located⟩
    rw [copies.get_kept free, copies'.get_kept fun listed => free ((members name).1 listed)]

end Copies

/--
What becomes of a tree when names that are visible from a frame are copied into
another one: each that reads as something reads as the same there, its node is a
copy, and nothing else has changed.
-/
structure TakesOver (t : Tree) (id : FrameId) (names : List String) (anyCase upward : Bool)
    (target : FrameId) (n : Nat) (t' : Tree) : Prop where
  count : n = names.countP fun name => (t.get id name anyCase upward).value.isSome
  reads : ∀ name ∈ names, ∀ v, (t.get id name anyCase upward).value = some v →
    (t'.get target name false false).value = some v
  nodes : ∀ name ∈ names, ∀ owner key, t.locate id name anyCase upward = some (owner, key) →
    ∃ key' node, t'.locateLocal target name false = some key' ∧
      t'.node? target key' = some node ∧ t.node? owner key = some node
  kept : ∀ name, (name ∈ names → (t.get id name anyCase upward).value = none) →
    t'.get target name false false = t.get target name false false
  others : ∀ other ≠ target,
    t'.frame? other = t.frame? other ∧ ∀ key, t'.node? other key = t.node? other key

/-- A call that leaves the same to be read for the same names, however they are listed. -/
def AnyOrder (act : List String → TreeUpdate (Nat × Tree)) (names : List String) (t' : Tree) :
    Prop :=
  ∀ names', (∀ name, name ∈ names' ↔ name ∈ names) → ∃ n t'', Yields (act names') (n, t'') ∧
    ∀ i name, t''.get i name false false = t'.get i name false false

theorem Copies.takesOver {anyCase upward : Bool} (separate : t.Separate)
    (copies : t.Copies (fun name => t.locate id name anyCase upward) names target n t')
    (updates : t.Updates target t') : t.TakesOver id names anyCase upward target n t' where
  count := by
    rw [copies.count]
    refine List.countP_congr fun name _ => ?_
    exact (isSome_get_iff separate).symm
  reads := by
    intro name listed v read
    have found := (isSome_get_iff separate).1 (Option.isSome_iff_exists.2 ⟨v, read⟩)
    rcases Option.isSome_iff_exists.1 found with ⟨⟨owner, key⟩, located⟩
    rw [get, located] at read
    rw [(copies.get_copied listed located).2]
    exact read
  nodes := by
    intro name listed owner key located
    rcases copies.copied name listed owner key located with ⟨⟨same, points⟩, -⟩
    rcases Option.isSome_iff_exists.1 points with ⟨node, found⟩
    exact ⟨Key.parse name, node, (copies.get_copied listed located).1, same.trans found, found⟩
  kept := by
    intro name free
    refine copies.get_kept fun listed => ?_
    rw [← Option.not_isSome_iff_eq_none, ← isSome_get_iff separate, free listed]
    exact Bool.false_ne_true
  others := by
    intro other away
    exact (updates.confined separate).others separate away

/-- Copying names that are located elsewhere takes them over, in whatever order they are listed. -/
theorem exists_takesOver {anyCase upward : Bool} (act : List String → TreeUpdate (Nat × Tree))
    (separate : t.Separate) (frame : t.frame? target = some f)
    (locates : LocatesApart (fun t name => t.locate id name anyCase upward) target t)
    (runs : ∀ names, act names =
      copyAll (fun t name => t.locate id name anyCase upward) target t names)
    (names : List String) :
    ∃ n t', Yields (act names) (n, t') ∧ t.TakesOver id names anyCase upward target n t' ∧
      AnyOrder act names t' := by
  have copied (names : List String) := exists_copyAll separate frame locates names
  rcases copied names with ⟨n, t', ran, copies⟩
  have updates := (rebinds_copyAll ran).toUpdates
  refine ⟨n, t', by rwa [runs], copies.takesOver separate updates, ?_⟩
  intro names' members
  rcases copied names' with ⟨n', t'', ran', copies'⟩
  refine ⟨n', t'', by rwa [runs], ?_⟩
  intro i name
  by_cases here : i = target
  · subst here
    exact copies.get_eq copies' members name
  · have updates' := (rebinds_copyAll ran').toUpdates
    rw [get_exactly_of_carries fun key _ => updates.carries separate here key,
      get_exactly_of_carries fun key _ => updates'.carries separate here key]

/--
On a tree that a render has come to, a frame inherits what is visible from the
enclosing one, and returns what it binds itself to that one.
-/
theorem takesOver_of_run {title : String} {expander : Expander}
    (run : Run (ofPage title expander) t) {parent : FrameId}
    (enclosed : t.parent? id = some parent) (names : List String) (anyCase : Bool) :
    (∃ n t', Yields (t.inherit id names anyCase) (n, t') ∧
      t.TakesOver parent names anyCase true id n t' ∧
        AnyOrder (t.inherit id · anyCase) names t') ∧
      ∃ n t', Yields (t.returnTo id names anyCase) (n, t') ∧
        t.TakesOver id names anyCase false parent n t' ∧
          AnyOrder (t.returnTo id · anyCase) names t' := by
  have separate := separate_of_run (coherent_ofPage title expander).separate run
  have below : parent < id := nested_of_run run id parent enclosed
  rcases Option.bind_eq_some_iff.1 enclosed with ⟨f, frame, outer⟩
  constructor
  · have apart {i : FrameId} (inside : i ≤ parent) : i ≠ id :=
      Nat.ne_of_lt (Nat.lt_of_le_of_lt inside below)
    refine exists_takesOver (t.inherit id · anyCase) separate frame ⟨?_, ?_⟩ ?_ names
    · intro t' frames
      funext name
      exact locate_congr (fun i inside => frames i (apart inside)) name anyCase true
    · intro name owner key located
      exact ⟨apart (le_of_locate located), ref?_of_locateIn located⟩
    · intro names
      rw [inherit, frame]
      simp only [outer]
  · have apart : id ≠ parent := Nat.ne_of_gt below
    have there : parent < t.frames.size :=
      Nat.lt_trans below (Array.getElem?_eq_some_iff.1 frame).1
    refine exists_takesOver (t.returnTo id · anyCase) separate (Array.getElem?_eq_getElem there)
      ⟨?_, ?_⟩ ?_ names
    · intro t' frames
      funext name
      rw [locate_own, locate_own, locateLocal, locateLocal, frames id apart]
    · intro name owner key located
      rw [locate_own] at located
      rcases Option.map_eq_some_iff.1 located with ⟨key', own, same⟩
      cases same
      exact ⟨apart, ref?_of_locateLocal own⟩
    · intro names
      rw [returnTo, frame]
      simp only [outer]

/-- A page that binds a name, and a template with an argument in digits. -/
def sheltered : Tree :=
  ((Call.set root "Foo" (.markup "a")).run? (ofPage "Page" shouting)).bind
    (Call.push root "Template" { positional := [.markup "b"], named := [("2", .text "c")] }).run?
    |>.getD (ofPage "Page" shouting)

/-- A name is inherited twice in another spelling, and the argument in digits is returned. -/
theorem takesOver_sheltered :
    Run (ofPage "Page" shouting) sheltered ∧ sheltered.parent? 1 = some root ∧
      (∃ n t', Yields (sheltered.inherit 1 ["FOO", "2", "FOO"] true) (n, t') ∧
        sheltered.TakesOver root ["FOO", "2", "FOO"] true true 1 n t' ∧ n = 2 ∧
          (t'.get 1 "FOO" false false).value = some "a!") ∧
      ∃ n t', Yields (sheltered.returnTo 1 ["FOO", "2", "FOO"] true) (n, t') ∧
        sheltered.TakesOver 1 ["FOO", "2", "FOO"] true false root n t' ∧ n = 1 ∧
          (t'.get root "2" false false).value = some "c" := by
  let named : Tree := ((Call.set root "Foo" (.markup "a")).run? (ofPage "Page" shouting)).getD
    (ofPage "Page" shouting)
  have set : (Call.set root "Foo" (.markup "a")).run? (ofPage "Page" shouting) = some named := rfl
  have pushed : (Call.push root "Template"
      { positional := [.markup "b"], named := [("2", .text "c")] }).run? named =
        some sheltered := rfl
  have run : Run (ofPage "Page" shouting) sheltered :=
    .tail (.single (.call _ set)) (.call _ pushed)
  have enclosed : sheltered.parent? 1 = some root := rfl
  rcases takesOver_of_run run enclosed ["FOO", "2", "FOO"] true with
    ⟨⟨n, t', ran, taken, -⟩, k, t'', ran', taken', -⟩
  have inherited : (["FOO", "2", "FOO"].countP fun name =>
      (sheltered.get root name true true).value.isSome) = 2 := by decide +kernel
  have returned : (["FOO", "2", "FOO"].countP fun name =>
      (sheltered.get 1 name true false).value.isSome) = 1 := by decide +kernel
  have visible : (sheltered.get root "FOO" true true).value = some "a!" := by decide +kernel
  have own : (sheltered.get 1 "2" true false).value = some "c" := by decide +kernel
  exact ⟨run, enclosed,
    ⟨n, t', ran, taken, taken.count.trans inherited, taken.reads "FOO" (by simp) _ visible⟩,
    k, t'', ran', taken', taken'.count.trans returned, taken'.reads "2" (by simp) _ own⟩

end TemplateVars.Tree
