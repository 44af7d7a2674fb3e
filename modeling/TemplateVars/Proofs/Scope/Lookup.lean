import TemplateVars.Proofs.Scope.Update

/-!
# What look-ups read

An exact look-up in a frame reads the key that the name is routed to or, failing
that, the name itself. A look-up that goes on to the enclosing frames reads the
nearest frame that holds the name. So bindings that are carried over to other
keys are read there as they were read before.
-/

namespace TemplateVars.Tree

variable {t t' : Tree} {id : FrameId} {key old : Key} {f f' : Frame}

/-- What a frame holds at a key it holds at another one in another tree. -/
structure Carries (t : Tree) (id : FrameId) (old : Key) (t' : Tree) (key : Key) : Prop where
  ref?_eq : t'.ref? id key = t.ref? id old
  node?_eq : t'.node? id key = t.node? id old
  cached?_eq : t'.cached? id key = t.cached? id old
  text_eq : t'.text id key = t.text id old

theorem Carries.refl (t : Tree) (id : FrameId) (key : Key) : t.Carries id key t key :=
  ⟨rfl, rfl, rfl, rfl⟩

theorem Carries.trans {t'' : Tree} {key' : Key} (first : t.Carries id old t' key)
    (second : t'.Carries id key t'' key') : t.Carries id old t'' key' :=
  ⟨second.ref?_eq.trans first.ref?_eq, second.node?_eq.trans first.node?_eq,
    second.cached?_eq.trans first.cached?_eq, second.text_eq.trans first.text_eq⟩

theorem carries_of_same (refs : t'.ref? id key = t.ref? id old)
    (points : t'.node? id key = t.node? id old) (texts : t'.cached? id key = t.cached? id old)
    (expander : t'.expander = t.expander) : t.Carries id old t' key :=
  ⟨refs, points, texts, by simp only [text, texts, points, expand, expander]⟩

theorem Binds.carries {node : Node} {text : String} {ref : NodeRef} {key' : Key} {other : FrameId}
    (b : t.Binds id key node text f ref t') (separate : t.Separate)
    (apart : ¬(other = id ∧ key' = key)) : t.Carries other key' t' key' := by
  refine carries_of_same ?_ ?_ ?_ b.expander_eq
  · rw [b.ref?_eq, if_neg apart]
  · rw [b.node?_eq separate, if_neg apart]
  · rw [b.cached?_eq, if_neg apart]

theorem Updates.carries {other : FrameId} (updates : t.Updates id t') (separate : t.Separate)
    (apart : other ≠ id) (key : Key) : t.Carries other key t' key := by
  have confined := updates.confined separate
  refine carries_of_same (confined.ref?_eq apart key) (confined.node?_eq separate apart key) ?_
    updates.expander_eq
  rw [cached?, confined.frame?_eq other apart]
  rfl

/-- Where a frame is rearranged, a binding is carried over to where it is moved. -/
theorem Reframes.carries {move : Key → Option Key} (changed : t.Reframes id f' t')
    (frame : t.frame? id = some f) (moves : f.Rearranges f' move) (nodes : t'.nodes = t.nodes)
    (injective : ∀ other, move other = some key → other = old) (moved : move old = some key) :
    t.Carries id old t' key := by
  have refs : t'.ref? id key = t.ref? id old := by
    rw [changed.ref?_eq, if_pos rfl, moves.ref?_eq injective moved, ref?_of_frame? frame]
  have texts : t'.cached? id key = t.cached? id old := by
    rw [changed.cached?_eq, if_pos rfl, moves.cached?_eq injective moved, cached?_of_frame? frame]
  have points : t'.node? id key = t.node? id old := by
    rw [node?, node?, refs, nodes]
  exact carries_of_same refs points texts changed.expander_eq

/-- A name is found first of all where it is routed to. -/
theorem locateLocal_of_ref? {name : String} (bound : (t.ref? id (Key.parse name)).isSome)
    (anyCase : Bool) : t.locateLocal id name anyCase = some (Key.parse name) := by
  cases frame : t.frame? id with
  | none => simp [ref?, frame] at bound
  | some f =>
      rw [ref?_of_frame? frame] at bound
      rw [locateLocal, frame, Option.bind_some, Frame.locate]
      exact if_pos bound

theorem locateLocal_exact (t : Tree) (id : FrameId) (name : String) :
    t.locateLocal id name false =
      if (t.ref? id (Key.parse name)).isSome then some (Key.parse name)
      else if (t.ref? id (.named name)).isSome then some (.named name) else none := by
  rw [locateLocal, ref?, ref?]
  cases t.frame? id with
  | none => rfl
  | some f => simp [Frame.locate]

theorem get_own (t : Tree) (id : FrameId) (name : String) (anyCase : Bool) :
    t.get id name anyCase false =
      match t.locateLocal id name anyCase with
      | some key => t.text id key
      | none => pure none := by
  rw [get, locate_own]
  cases t.locateLocal id name anyCase <;> rfl

/-- A name that a frame holds itself is read from that frame. -/
theorem get_of_locateLocal {name : String} {anyCase : Bool}
    (located : t.locateLocal id name anyCase = some key) (upward : Bool) :
    t.get id name anyCase upward = t.text id key := by
  cases upward with
  | false => rw [get_own, located]
  | true =>
      rcases Option.bind_eq_some_iff.1 located with ⟨f, frame, -⟩
      rw [get, locate, if_pos rfl, ancestors, frame]
      simp only [locateIn, located]

/-- A name reads as another one did if all it can be read from is carried over. -/
theorem get_of_carries {name other : String}
    (routed : t.Carries id (Key.parse other) t' (Key.parse name))
    (named : t.Carries id (.named other) t' (.named name)) :
    t'.get id name false false = t.get id other false false := by
  simp only [get_own, locateLocal_exact, routed.ref?_eq, named.ref?_eq]
  by_cases first : (t.ref? id (Key.parse other)).isSome
  · simp [first, routed.text_eq]
  · by_cases second : (t.ref? id (.named other)).isSome
    · simp [first, second, named.text_eq]
    · simp [first, second]

/-- A name reads as before if all that answers to it is where it was. -/
theorem get_exactly_of_carries {name : String}
    (carried : ∀ key : Key, key.Answers name false → t.Carries id key t' key) :
    t'.get id name false false = t.get id name false false :=
  get_of_carries (carried _ (Or.inl rfl)) (carried _ (Or.inr (Or.inl rfl)))

/-! ### Look-ups in trees whose frames are separate -/

theorem isSome_locateLocal_iff {name : String} {anyCase : Bool} :
    (t.locateLocal id name anyCase).isSome ↔
      ∃ key : Key, key.Answers name anyCase ∧ (t.ref? id key).isSome := by
  rw [locateLocal]
  cases frame : t.frame? id with
  | none => simp [ref?, frame]
  | some f =>
      rw [Option.bind_some, Frame.isSome_locate_iff]
      simp only [ref?_of_frame? frame]

theorem isSome_text_iff (separate : t.Separate) :
    (t.text id key).value.isSome ↔ (t.ref? id key).isSome := by
  rw [text]
  cases known : t.cached? id key with
  | some text =>
      rcases Option.bind_eq_some_iff.1 known with ⟨f, frame, own⟩
      simp [ref?_of_frame? frame, separate.textsBound id f frame key (by simp [own])]
  | none =>
      cases points : t.node? id key with
      | some node =>
          rcases Option.bind_eq_some_iff.1 points with ⟨ref, own, -⟩
          simp [own]
      | none =>
          simp only [Expanding.value_pure, Option.isSome_none, Bool.false_eq_true, false_iff]
          intro bound
          rcases separate.valid.exists_node bound with ⟨node, found⟩
          rw [points] at found
          cases found

/-- A name reads as something exactly if it is located. -/
theorem isSome_get_iff (separate : t.Separate) {name : String} {anyCase upward : Bool} :
    (t.get id name anyCase upward).value.isSome ↔ (t.locate id name anyCase upward).isSome := by
  rw [get]
  cases located : t.locate id name anyCase upward with
  | none => simp
  | some place => simpa [isSome_text_iff separate] using ref?_of_locateIn located

theorem isSome_get_own_iff (separate : t.Separate) {name : String} {anyCase : Bool} :
    (t.get id name anyCase false).value.isSome ↔
      ∃ key : Key, key.Answers name anyCase ∧ (t.ref? id key).isSome := by
  rw [isSome_get_iff separate, locate_own, Option.isSome_map, isSome_locateLocal_iff]

/-! ### Look-ups in coherent trees -/

theorem exists_node_of_locateLocal (coherent : t.Coherent) {name : String} {anyCase : Bool}
    (located : t.locateLocal id name anyCase = some key) : ∃ node, t.node? id key = some node := by
  have found : t.locate id name anyCase false = some (id, key) := by
    rw [locate_own, located]
    rfl
  exact coherent.exists_node found

theorem value_get_own (coherent : t.Coherent) (id : FrameId) (name : String) (anyCase : Bool) :
    (t.get id name anyCase false).value =
      (t.locateLocal id name anyCase).bind fun key => (t.node? id key).map t.expander.textOf := by
  rw [get_own]
  cases t.locateLocal id name anyCase with
  | none => rfl
  | some key => exact value_text coherent id key

/-- With the enclosing frames, the nearest frame that reads something answers. -/
theorem value_get_upward (coherent : t.Coherent) (id : FrameId) (name : String) (anyCase : Bool) :
    (t.get id name anyCase true).value =
      (t.ancestors id).findSome? fun i => (t.get i name anyCase false).value := by
  rw [get, locate, if_pos rfl]
  induction t.ancestors id with
  | nil => rfl
  | cons i ids ih =>
      rw [List.findSome?_cons, locateIn]
      cases located : t.locateLocal i name anyCase with
      | none => simpa [value_get_own coherent, located] using ih
      | some key =>
          rcases exists_node_of_locateLocal coherent located with ⟨node, bound⟩
          simp [value_get_own coherent, located, value_text coherent, bound]

/-! ### Enclosing frames -/

theorem ancestors_congr
    (same : ∀ i ≤ id, (t'.frame? i).map (·.parent) = (t.frame? i).map (·.parent)) :
    t'.ancestors id = t.ancestors id := by
  induction id using Nat.strongRecOn with
  | ind id ih =>
      have enclosed := same id (Nat.le_refl id)
      rw [ancestors, ancestors]
      cases frame : t.frame? id with
      | none =>
          have frame' : t'.frame? id = none := by simpa [frame] using enclosed
          rw [frame']
      | some f =>
          rcases Option.map_eq_some_iff.1 (enclosed.trans (congrArg _ frame)) with
            ⟨f', frame', parent⟩
          simp only [frame', parent]
          cases f.parent with
          | none => rfl
          | some p =>
              simp only
              split
              · rename_i below
                rw [ih p below fun i inside => same i (Nat.le_trans inside (Nat.le_of_lt below))]
              · rfl

theorem le_of_mem_ancestors {i : FrameId} (listed : i ∈ t.ancestors id) : i ≤ id := by
  induction id using Nat.strongRecOn with
  | ind id ih =>
      rw [ancestors] at listed
      cases frame : t.frame? id with
      | none => simp [frame] at listed
      | some f =>
          simp only [frame, List.mem_cons] at listed
          rcases listed with rfl | above
          · exact Nat.le_refl _
          · cases outer : f.parent with
            | none => simp [outer] at above
            | some p =>
                simp only [outer] at above
                split at above
                · rename_i below
                  exact Nat.le_trans (ih p below above) (Nat.le_of_lt below)
                · cases above

theorem locateIn_congr {name : String} {anyCase anyCase' : Bool} {ids : List FrameId}
    (same : ∀ i ∈ ids, t'.locateLocal i name anyCase' = t.locateLocal i name anyCase) :
    t'.locateIn name anyCase' ids = t.locateIn name anyCase ids := by
  induction ids with
  | nil => rfl
  | cons i ids ih =>
      rw [List.forall_mem_cons] at same
      rw [locateIn, locateIn, same.1, ih same.2]

theorem mem_of_locateIn {name : String} {anyCase : Bool} {ids : List FrameId} {owner : FrameId}
    (located : t.locateIn name anyCase ids = some (owner, key)) : owner ∈ ids := by
  induction ids with
  | nil => cases located
  | cons i ids ih =>
      rw [locateIn] at located
      split at located
      · cases located
        exact List.mem_cons_self
      · exact List.mem_cons_of_mem _ (ih located)

/-- What is located from a frame is located in frames that come no later. -/
theorem locate_congr (same : ∀ i ≤ id, t'.frame? i = t.frame? i) (name : String)
    (anyCase upward : Bool) :
    t'.locate id name anyCase upward = t.locate id name anyCase upward := by
  have enclosing : t'.ancestors id = t.ancestors id :=
    ancestors_congr fun i inside => by rw [same i inside]
  rw [locate, locate, enclosing]
  apply locateIn_congr
  intro i listed
  have before : i ≤ id := by
    cases upward with
    | false => exact Nat.le_of_eq (List.mem_singleton.1 listed)
    | true => exact le_of_mem_ancestors listed
  rw [locateLocal, locateLocal, same i before]

theorem le_of_locate {name : String} {anyCase upward : Bool} {owner : FrameId}
    (located : t.locate id name anyCase upward = some (owner, key)) : owner ≤ id := by
  have listed := mem_of_locateIn located
  cases upward with
  | false => exact Nat.le_of_eq (List.mem_singleton.1 listed)
  | true => exact le_of_mem_ancestors listed

end TemplateVars.Tree
