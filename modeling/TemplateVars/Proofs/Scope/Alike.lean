import TemplateVars.Proofs.Scope.Lookup

/-!
# Trees that read alike

A position that is bound as a number shadows the same digits bound as a name:
until the number goes, and the digits go with it, no look-up comes to them. Nor
does a look-up care where a name in digits stands among the other names. Trees
that differ in nothing else read alike, and stay so when a variable is bound in
both of them, or when both are rearranged in the same way.
-/

namespace TemplateVars

namespace Frame

variable {f g : Frame} {name : String}

/-- The names of a frame that are not all digits, in the order they came in. -/
def words (f : Frame) : List String := f.named.keys.filter fun k => !Text.isDigits k

/-- What counts of a frame for a look-up besides its bindings. -/
def outline (f : Frame) : Option FrameId × List String := (f.parent, f.words)

theorem spellings_of_words (word : Text.isDigits name = false) (same : g.words = f.words) :
    g.spellings name = f.spellings name := by
  have among (f : Frame) :
      f.spellings name = f.words.filter fun k => Text.lower k == Text.lower name := by
    rw [spellings, words, List.filter_filter]
    refine List.filter_congr fun k _ => ?_
    cases own : Text.lower k == Text.lower name with
    | false => rfl
    | true => simp [Text.isDigits_of_lower_eq (beq_iff_eq.1 own), word]
  rw [among, among, same]

/-- A list of words with a name put last, unless it is all digits or listed already. -/
def addWord (name : String) (words : List String) : List String :=
  if Text.isDigits name = true ∨ name ∈ words then words else words ++ [name]

theorem words_insert (name : String) (ref : NodeRef) :
    (f.insert (Key.parse name) ref).words = addWord name f.words := by
  cases routed : Key.parse name with
  | numbered n =>
      rcases Key.parse_eq_numbered.1 routed with ⟨rfl, small⟩
      have digits := Key.isDigits_of_position? (Key.position?_toString small)
      rw [addWord, if_pos (Or.inl digits)]
      rfl
  | named k =>
      rw [← (Key.parse_eq_named.1 routed).1]
      have keys : (f.insert (.named name) ref).named.keys =
          if name ∈ f.named.keys then f.named.keys else f.named.keys ++ [name] :=
        OrderedMap.keys_insert ..
      rw [words, keys, addWord]
      cases digits : Text.isDigits name <;> by_cases listed : name ∈ f.named.keys <;>
        simp [words, List.filter_append, digits, listed]

/-- Whether case counts makes no difference for removing a name that is all digits. -/
theorem unset_of_digits (f : Frame) (digits : Text.isDigits name = true) (anyCase shift : Bool) :
    f.unset name anyCase shift = f.unset name false shift := by
  rw [unset, unset]
  cases routed : Key.parse name with
  | numbered n => rfl
  | named k =>
      rw [(Key.parse_eq_named.1 routed).1] at digits
      simp [digits]

theorem words_keepText (key : Key) (text : String) : (f.keepText key text).words = f.words := by
  cases key <;> rfl

end Frame

/-- Flags between which a name leaves no choice: they are the same, or it is all digits. -/
def SameLookup (name : String) (anyCase anyCase' : Bool) : Prop :=
  anyCase' = anyCase ∨ Text.isDigits name = true

namespace SameLookup

variable {name : String} {anyCase anyCase' : Bool}

theorem refl (name : String) (anyCase : Bool) : SameLookup name anyCase anyCase := Or.inl rfl

theorem locate_eq (same : SameLookup name anyCase anyCase') (f : Frame) :
    f.locate name anyCase = f.locate name anyCase' := by
  rcases same with rfl | digits
  · rfl
  · exact (Frame.locate_of_digits digits).trans (Frame.locate_of_digits digits).symm

theorem unset_eq (same : SameLookup name anyCase anyCase') (f : Frame) (shift : Bool) :
    f.unset name anyCase shift = f.unset name anyCase' shift := by
  rcases same with rfl | digits
  · rfl
  · exact (f.unset_of_digits digits ..).trans (f.unset_of_digits digits ..).symm

end SameLookup

namespace Tree

variable {t t' t₁ t₁' : Tree} {id : FrameId} {key : Key} {name : String} {anyCase anyCase' : Bool}
  {node : Node} {text : String}

/-- The outline of a frame of the tree. -/
def outline? (t : Tree) (id : FrameId) : Option (Option FrameId × List String) :=
  (t.frame? id).map (·.outline)

/-- Trees that differ only in what is shadowed and in the order of names in digits. -/
structure Alike (t t' : Tree) : Prop where
  separate : t.Separate
  separate' : t'.Separate
  expander_eq : t'.expander = t.expander
  outline?_eq : ∀ id, t'.outline? id = t.outline? id
  node?_eq : ∀ id key, ¬ key.Shadowed (t.ref? id) → t'.node? id key = t.node? id key
  cached?_eq : ∀ id key, ¬ key.Shadowed (t.ref? id) → t'.cached? id key = t.cached? id key

theorem Separate.alike (separate : t.Separate) : t.Alike t :=
  ⟨separate, separate, rfl, fun _ => rfl, fun _ _ _ => rfl, fun _ _ _ => rfl⟩

namespace Alike

theorem isSome_ref? (alike : t.Alike t') (seen : ¬ key.Shadowed (t.ref? id)) :
    (t'.ref? id key).isSome = (t.ref? id key).isSome := by
  rw [← alike.separate.valid.isSome_node?, ← alike.separate'.valid.isSome_node?,
    alike.node?_eq id key seen]

theorem text_eq (alike : t.Alike t') (seen : ¬ key.Shadowed (t.ref? id)) :
    t'.text id key = t.text id key := by
  simp only [text, alike.cached?_eq id key seen, alike.node?_eq id key seen, expand,
    alike.expander_eq]

/-- A frame is missing in both trees, or there in both with the same outline. -/
theorem frames (alike : t.Alike t') (id : FrameId) :
    t.frame? id = none ∧ t'.frame? id = none ∨
      ∃ f f', t.frame? id = some f ∧ t'.frame? id = some f' ∧ f'.parent = f.parent ∧
        f'.words = f.words := by
  have same := alike.outline?_eq id
  rw [outline?, outline?] at same
  cases frame : t.frame? id with
  | none =>
      rw [frame] at same
      exact Or.inl ⟨rfl, Option.map_eq_none_iff.1 same⟩
  | some f =>
      rw [frame] at same
      rcases Option.map_eq_some_iff.1 same with ⟨f', frame', outline⟩
      exact Or.inr ⟨f, f', rfl, frame', congrArg (·.1) outline, congrArg (·.2) outline⟩

theorem locateLocal_eq (alike : t.Alike t') (id : FrameId)
    (same : SameLookup name anyCase anyCase') :
    t'.locateLocal id name anyCase' = t.locateLocal id name anyCase := by
  rcases alike.frames id with ⟨missing, missing'⟩ | ⟨f, f', frame, frame', -, words⟩
  · rw [locateLocal, locateLocal, missing, missing']
    rfl
  · rw [locateLocal, locateLocal, frame, frame', Option.bind_some, Option.bind_some,
      same.locate_eq f]
    refine Frame.locate_congr ?_ ?_
    · intro key _ seen
      rw [← funext (ref?_of_frame? frame)] at seen
      rw [← ref?_of_frame? frame, ← ref?_of_frame? frame']
      exact alike.isSome_ref? seen
    · intro _ word
      rw [Frame.spellings_of_words word words]

end Alike

theorem not_shadowed_of_locateLocal (located : t.locateLocal id name anyCase = some key) :
    ¬ key.Shadowed (t.ref? id) := by
  rcases Option.bind_eq_some_iff.1 located with ⟨f, frame, own⟩
  rw [funext (ref?_of_frame? frame)]
  exact Frame.not_shadowed_of_locate own

theorem not_shadowed_of_locateIn {ids : List FrameId}
    (located : t.locateIn name anyCase ids = some (id, key)) : ¬ key.Shadowed (t.ref? id) := by
  induction ids with
  | nil => cases located
  | cons i ids ih =>
      rw [locateIn] at located
      split at located
      · rename_i own
        cases located
        exact not_shadowed_of_locateLocal own
      · exact ih located

namespace Alike

theorem locate_eq (alike : t.Alike t') (id : FrameId) (same : SameLookup name anyCase anyCase')
    (upward : Bool) : t'.locate id name anyCase' upward = t.locate id name anyCase upward := by
  have enclosing : t'.ancestors id = t.ancestors id := by
    refine ancestors_congr fun i _ => ?_
    have parents := congrArg (Option.map (·.1)) (alike.outline?_eq i)
    simpa only [outline?, Option.map_map, Function.comp_def, Frame.outline] using parents
  rw [locate, locate, enclosing]
  exact locateIn_congr fun i _ => alike.locateLocal_eq i same

/-- Whatever is looked up in trees that are alike reads the same, and by the same expansions. -/
theorem get_eq (alike : t.Alike t') (id : FrameId) (name : String) (anyCase upward : Bool) :
    t'.get id name anyCase upward = t.get id name anyCase upward := by
  rw [get, get, alike.locate_eq id (.refl name anyCase)]
  cases located : t.locate id name anyCase upward with
  | none => rfl
  | some place => exact alike.text_eq (not_shadowed_of_locateIn located)

end Alike

/-! ### Binding a variable -/

/--
A tree in which a name of a frame has been bound, and in which everything else
that can be looked up is what it was.
-/
structure Puts (t : Tree) (id : FrameId) (name : String) (node : Node) (text : String) (t₁ : Tree) :
    Prop where
  separate : t₁.Separate
  expander_eq : t₁.expander = t.expander
  outline?_eq : ∀ i, t₁.outline? i =
    if i = id then (t.outline? i).map fun o => (o.1, Frame.addWord name o.2) else t.outline? i
  node?_eq : t₁.node? id (Key.parse name) = some node
  cached?_eq : t₁.cached? id (Key.parse name) = some text
  kept : ∀ i key, ¬(i = id ∧ key = Key.parse name) → ¬ key.Shadowed (t₁.ref? i) →
    ¬ key.Shadowed (t.ref? i) ∧ t.Carries i key t₁ key

/-- A tree from which keys may have been dropped that answer to a name. -/
structure Sweeps (t : Tree) (id : FrameId) (name : String) (t₁ : Tree) : Prop where
  separate : t₁.Separate
  expander_eq : t₁.expander = t.expander
  outline?_eq : ∀ i, t₁.outline? i = t.outline? i
  kept : ∀ i key, ¬(i = id ∧ key.Answers name false) → t.Carries i key t₁ key

theorem Separate.sweeps (separate : t.Separate) (id : FrameId) (name : String) :
    t.Sweeps id name t :=
  ⟨separate, rfl, fun _ => rfl, fun i key _ => .refl t i key⟩

theorem Binds.puts {t₂ : Tree} {f : Frame} {ref : NodeRef}
    (b : t₁.Binds id (Key.parse name) node text f ref t₂) (sweeps : t.Sweeps id name t₁) :
    t.Puts id name node text t₂ := by
  have carries (i : FrameId) (key : Key) (away : ¬(i = id ∧ key.Answers name false)) :
      t.Carries i key t₂ key := by
    refine (sweeps.kept i key away).trans (b.carries sweeps.separate ?_)
    exact fun here => away ⟨here.1, Or.inl here.2⟩
  have own := b.isSome_ref?
  refine ⟨b.separate sweeps.separate, b.expander_eq.trans sweeps.expander_eq, ?_, ?_, ?_, ?_⟩
  · intro i
    rw [outline?, b.frame?_eq, ← sweeps.outline?_eq]
    split
    · rename_i here
      rw [here, outline?, b.frame]
      simp [Frame.outline, Frame.words_keepText, Frame.words_insert]
    · rfl
  · rw [b.node?_eq sweeps.separate, if_pos ⟨rfl, rfl⟩]
  · rw [b.cached?_eq, if_pos ⟨rfl, rfl⟩]
  · intro i key apart seen
    have away : ¬(i = id ∧ key.Answers name false) := by
      rintro ⟨rfl, answers⟩
      rcases Key.answers_exactly.1 answers with routed | rfl
      · exact apart ⟨rfl, routed⟩
      · exact seen (Key.shadowed_named_iff.2 ⟨fun same => apart ⟨rfl, same.symm⟩, own⟩)
    refine ⟨fun shadowed => seen (shadowed.mono fun n bound => ?_), carries i key away⟩
    by_cases here : i = id ∧ Key.numbered n = Key.parse name
    · rw [here.1, here.2]
      exact own
    · have free : ¬(i = id ∧ (Key.numbered n).Answers name false) := by
        rintro ⟨same, answers⟩
        rcases Key.answers_exactly.1 answers with routed | named
        · exact here ⟨same, routed⟩
        · cases named
      rwa [(carries i _ free).ref?_eq]

/-- Trees that are alike stay so when the same is bound in both of them. -/
theorem Alike.puts (alike : t.Alike t') (put : t.Puts id name node text t₁)
    (put' : t'.Puts id name node text t₁') : t₁.Alike t₁' := by
  have seen' {i : FrameId} {key : Key} (seen : ¬ key.Shadowed (t₁.ref? i)) :
      ¬ key.Shadowed (t₁'.ref? i) := by
    refine fun shadowed => seen (shadowed.mono fun n bound => ?_)
    by_cases here : i = id ∧ Key.numbered n = Key.parse name
    · rw [here.1, here.2, ← put.separate.valid.isSome_node?, put.node?_eq]
      rfl
    · rcases put.kept i _ here (Key.not_shadowed_numbered n) with ⟨-, carried⟩
      rcases put'.kept i _ here (Key.not_shadowed_numbered n) with ⟨-, carried'⟩
      rwa [carried'.ref?_eq, alike.isSome_ref? (Key.not_shadowed_numbered n),
        ← carried.ref?_eq] at bound
  refine ⟨put.separate, put'.separate, ?_, ?_, ?_, ?_⟩
  · rw [put'.expander_eq, alike.expander_eq, put.expander_eq]
  · intro i
    rw [put'.outline?_eq, put.outline?_eq, alike.outline?_eq]
  · intro i key seen
    by_cases here : i = id ∧ key = Key.parse name
    · rw [here.1, here.2, put'.node?_eq, put.node?_eq]
    · rcases put.kept i key here seen with ⟨before, carried⟩
      rcases put'.kept i key here (seen' seen) with ⟨-, carried'⟩
      rw [carried'.node?_eq, carried.node?_eq, alike.node?_eq i key before]
  · intro i key seen
    by_cases here : i = id ∧ key = Key.parse name
    · rw [here.1, here.2, put'.cached?_eq, put.cached?_eq]
    · rcases put.kept i key here seen with ⟨before, carried⟩
      rcases put'.kept i key here (seen' seen) with ⟨-, carried'⟩
      rw [carried'.cached?_eq, carried.cached?_eq, alike.cached?_eq i key before]

/-! ### Rearranging a frame -/

/-- A tree in which the bindings of a frame have been moved or dropped. -/
structure Moves (t : Tree) (id : FrameId) (move : Key → Option Key)
    (left : List String → List String) (t₁ : Tree) : Prop where
  separate : t₁.Separate
  expander_eq : t₁.expander = t.expander
  outline?_eq : ∀ i, t₁.outline? i =
    if i = id then (t.outline? i).map fun o => (o.1, left o.2) else t.outline? i
  node?_iff : ∀ key node, t₁.node? id key = some node ↔
    ∃ old, t.node? id old = some node ∧ move old = some key
  cached?_iff : ∀ key text, t₁.cached? id key = some text ↔
    ∃ old, t.cached? id old = some text ∧ move old = some key
  others : ∀ i ≠ id, ∀ key, t.Carries i key t₁ key

theorem Reframes.moves {f g : Frame} {move : Key → Option Key}
    {left : List String → List String} (changed : t.Reframes id g t₁)
    (separate : t.Separate) (frame : t.frame? id = some f) (moves : f.Rearranges g move)
    (nodes : t₁.nodes = t.nodes) (words : g.words = left f.words) : t.Moves id move left t₁ where
  separate := separate.rearrange frame moves changed nodes
  expander_eq := changed.expander_eq
  outline?_eq := by
    intro i
    rw [outline?, changed.frame?_eq]
    split
    · rename_i here
      rw [here, outline?, frame]
      simp [Frame.outline, words, moves.parent_eq]
    · rfl
  node?_iff := by
    intro key node
    simp only [node?, changed.ref?_eq, if_true, nodes, Option.bind_eq_some_iff, moves.ref?_iff,
      ref?_of_frame? frame]
    grind
  cached?_iff := by
    intro key text
    simp only [changed.cached?_eq, if_true, moves.cached?_iff, cached?_of_frame? frame]
  others := by
    intro i away key
    have refs : t₁.ref? i key = t.ref? i key := by
      rw [changed.ref?_eq, if_neg away]
    refine carries_of_same refs ?_ ?_ changed.expander_eq
    · rw [node?, node?, refs, nodes]
    · rw [changed.cached?_eq, if_neg away]

/-- Digits are only moved along with their position, to the digits of where that goes. -/
def KeepsShadows (move : Key → Option Key) : Prop :=
  ∀ n ≤ Key.maxPosition, ∀ key, move (.named (toString n)) = some key →
    ∃ m ≤ Key.maxPosition, key = .named (toString m) ∧ move (.numbered n) = some (.numbered m)

/-- Keys may be dropped if no position is dropped without its digits. -/
theorem keepsShadows_of_dropped {p : Key → Prop} [DecidablePred p]
    (together : ∀ n ≤ Key.maxPosition, p (.numbered n) → p (.named (toString n))) :
    KeepsShadows fun key => if p key then none else some key := by
  intro n small key goes
  simp only at goes
  split at goes
  · cases goes
  · rename_i kept
    cases goes
    exact ⟨n, small, rfl, if_neg fun dropped => kept (together n small dropped)⟩

theorem keepsShadows_closeGap (gap : Nat) : KeepsShadows (Frame.closeGap gap) := by
  intro n small key goes
  have index := Key.index?_named_toString small
  rcases Frame.closeGap_eq_some.1 goes with ⟨apart, rfl⟩
  rw [index] at apart
  refine ⟨if gap < n then n - 1 else n, ?_, ?_, ?_⟩
  · split <;> omega
  · rw [Key.closeUp_of_index? index]
    split <;> rfl
  · exact Frame.closeGap_eq_some.2 ⟨apart, Key.closeUp_numbered gap n⟩

/-- Trees that are alike stay so when both are rearranged in the same way. -/
theorem Alike.moves {move : Key → Option Key} {left : List String → List String}
    (alike : t.Alike t') (shadows : KeepsShadows move) (moved : t.Moves id move left t₁)
    (moved' : t'.Moves id move left t₁') : t₁.Alike t₁' := by
  have seen_old {old key : Key} (goes : move old = some key)
      (seen : ¬ key.Shadowed (t₁.ref? id)) : ¬ old.Shadowed (t.ref? id) := by
    rintro ⟨n, small, rfl, bound⟩
    rcases shadows n small key goes with ⟨m, small', rfl, along⟩
    rcases alike.separate.valid.exists_node bound with ⟨node, points⟩
    refine seen ⟨m, small', rfl, ?_⟩
    rw [← moved.separate.valid.isSome_node?, (moved.node?_iff _ node).2 ⟨_, points, along⟩]
    rfl
  have seen_other {i : FrameId} {key : Key} (away : i ≠ id)
      (seen : ¬ key.Shadowed (t₁.ref? i)) : ¬ key.Shadowed (t.ref? i) := by
    refine fun shadowed => seen (shadowed.mono fun n bound => ?_)
    rwa [(moved.others i away _).ref?_eq]
  -- nodes and texts are moved alike, so they are compared in the same way
  have same {α : Type} {v v' w w' : FrameId → Key → Option α}
      (before : ∀ i key, ¬ key.Shadowed (t.ref? i) → v' i key = v i key)
      (here : ∀ key a, w id key = some a ↔ ∃ old, v id old = some a ∧ move old = some key)
      (here' : ∀ key a, w' id key = some a ↔ ∃ old, v' id old = some a ∧ move old = some key)
      (away : ∀ i ≠ id, ∀ key, w i key = v i key ∧ w' i key = v' i key) (i : FrameId) (key : Key)
      (seen : ¬ key.Shadowed (t₁.ref? i)) : w' i key = w i key := by
    by_cases own : i = id
    · subst own
      apply Option.ext
      intro a
      rw [here', here]
      refine exists_congr fun old => and_congr_left fun goes => ?_
      rw [before i old (seen_old goes seen)]
    · rw [(away i own key).1, (away i own key).2, before i key (seen_other own seen)]
  refine ⟨moved.separate, moved'.separate, ?_, ?_, ?_, ?_⟩
  · rw [moved'.expander_eq, alike.expander_eq, moved.expander_eq]
  · intro i
    rw [moved'.outline?_eq, moved.outline?_eq, alike.outline?_eq]
  · exact same alike.node?_eq moved.node?_iff moved'.node?_iff fun i away key =>
      ⟨(moved.others i away key).node?_eq, (moved'.others i away key).node?_eq⟩
  · exact same alike.cached?_eq moved.cached?_iff moved'.cached?_iff fun i away key =>
      ⟨(moved.others i away key).cached?_eq, (moved'.others i away key).cached?_eq⟩

end Tree

end TemplateVars
