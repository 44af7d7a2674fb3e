import TemplateVars.Proofs.Scope.Alike

/-!
# Updates in step

An update is in step on trees that are alike if it fails on both for the same
reason, or gives the same answer on both and leaves them alike. All updates of a
frame are, also if a flag says on one side only that case does not count, as
long as the names are all digits.
-/

namespace TemplateVars

open TreeUpdate

/-- Both are the same error, or they are related results. -/
inductive AgreeOn {ε α β : Type} (R : α → β → Prop) : Except ε α → Except ε β → Prop
  | error (e : ε) : AgreeOn R (.error e) (.error e)
  | ok {a : α} {b : β} (related : R a b) : AgreeOn R (.ok a) (.ok b)

theorem AgreeOn.bind {ε α β α' β' : Type} {R : α → β → Prop} {S : α' → β' → Prop}
    {x : Except ε α} {y : Except ε β} {f : α → Except ε α'} {g : β → Except ε β'}
    (first : AgreeOn R x y) (rest : ∀ a b, R a b → AgreeOn S (f a) (g b)) :
    AgreeOn S (x >>= f) (y >>= g) := by
  cases first with
  | error e => exact .error e
  | ok related => exact rest _ _ related

theorem AgreeOn.map {ε α β α' β' : Type} {R : α → β → Prop} {S : α' → β' → Prop}
    {x : Except ε α} {y : Except ε β} {f : α → α'} {g : β → β'}
    (agree : AgreeOn R x y) (results : ∀ a b, R a b → S (f a) (g b)) :
    AgreeOn S (f <$> x) (g <$> y) := by
  cases agree with
  | error e => exact .error e
  | ok related => exact .ok (results _ _ related)

namespace TreeUpdate

variable {α β α' β' : Type} {R : α → β → Prop} {S : α' → β' → Prop}

/-- Both updates fail for the same reason, or succeed with related results. -/
def InStep (R : α → β → Prop) (x : TreeUpdate α) (y : TreeUpdate β) : Prop :=
  AgreeOn R x.run.value y.run.value

theorem inStep_pure {a : α} {b : β} (related : R a b) : InStep R (pure a) (pure b) := .ok related

theorem inStep_throw (e : FrameError) : InStep R (throw e) (throw e) := .error e

theorem value_bind (x : TreeUpdate α) (f : α → TreeUpdate α') :
    (x >>= f).run.value = x.run.value >>= fun a => (f a).run.value := by
  rw [ExceptT.run_bind, Expanding.value_bind]
  cases x.run.value <;> rfl

theorem value_lift_bind (x : Expanding α) (f : α → TreeUpdate α') :
    (liftM x >>= f).run.value = (f x.value).run.value := value_bind ..

theorem InStep.bind {x : TreeUpdate α} {y : TreeUpdate β} {f : α → TreeUpdate α'}
    {g : β → TreeUpdate β'} (first : InStep R x y) (rest : ∀ a b, R a b → InStep S (f a) (g b)) :
    InStep S (x >>= f) (y >>= g) := by
  rw [InStep, value_bind, value_bind]
  exact AgreeOn.bind first rest

theorem InStep.map {x : TreeUpdate α} {y : TreeUpdate β} {f : α → α'} {g : β → β'}
    (inStep : InStep R x y) (results : ∀ a b, R a b → S (f a) (g b)) :
    InStep S (f <$> x) (g <$> y) := by
  rw [← bind_pure_comp, ← bind_pure_comp]
  exact inStep.bind fun a b related => inStep_pure (results a b related)

end TreeUpdate

/-! ### Removing a variable -/

namespace Frame

variable {f : Frame} {name : String} {anyCase shift : Bool}

theorem words_erase (f : Frame) (name : String) :
    (f.erase (.named name)).words = f.words.filter (· ≠ name) := by
  have keys : (f.erase (.named name)).named.keys = f.named.keys.filter (· ≠ name) :=
    OrderedMap.keys_erase ..
  rw [words, keys, words, List.filter_filter, List.filter_filter]
  simp only [Bool.and_comm]

theorem keys_foldl_erase (names : List String) (f : Frame) :
    (names.foldl (fun g k => g.erase (.named k)) f).named.keys =
      f.named.keys.filter (· ∉ names) := by
  induction names generalizing f with
  | nil => simp
  | cons name names ih =>
      have erased : (f.erase (.named name)).named.keys = f.named.keys.filter (· ≠ name) :=
        OrderedMap.keys_erase ..
      rw [List.foldl_cons, ih, erased, List.filter_filter]
      refine List.filter_congr fun k _ => ?_
      simp [Bool.and_comm]

theorem isDigits_closeUpName (gap : Nat) (k : String) :
    Text.isDigits (closeUpName gap k) = Text.isDigits k := by
  rw [closeUpName]
  cases moved : movedName? gap k with
  | none => rfl
  | some k' =>
      rcases movedName?_eq_some.1 moved with ⟨n, rfl, small, above, rfl⟩
      have digits := Key.isDigits_of_position? (Key.position?_toString small)
      have digits' := Key.isDigits_of_position?
        (Key.position?_toString (Nat.le_trans (Nat.sub_le n 1) small))
      rw [digits]
      exact digits'

theorem closeUpName_of_word {k : String} (gap : Nat) (word : Text.isDigits k = false) :
    closeUpName gap k = k := by
  rw [closeUpName]
  cases moved : movedName? gap k with
  | none => rfl
  | some k' =>
      rcases movedName?_eq_some.1 moved with ⟨n, rfl, small, -⟩
      rw [Key.isDigits_of_position? (Key.position?_toString small)] at word
      cases word

theorem ne_of_digits {k : String} (word : Text.isDigits k = false)
    (digits : Text.isDigits name = true) : k ≠ name := by
  rintro rfl
  rw [word] at digits
  cases digits

theorem words_without_digits (f : Frame) (digits : Text.isDigits name = true) :
    (f.named.keys.filter (· ≠ name)).filter (!Text.isDigits ·) = f.words := by
  rw [List.filter_filter, words]
  refine List.filter_congr fun k _ => ?_
  cases word : Text.isDigits k with
  | true => rfl
  | false => simp [ne_of_digits word digits]

theorem words_closeUpName (keys : List String) (gap : Nat) :
    (keys.map (closeUpName gap)).filter (!Text.isDigits ·) = keys.filter (!Text.isDigits ·) := by
  have kept : (!Text.isDigits ·) ∘ closeUpName gap = (!Text.isDigits ·) := by
    funext k
    simp [isDigits_closeUpName]
  have fixed : ∀ k ∈ keys.filter (!Text.isDigits ·), closeUpName gap k = id k := by
    intro k listed
    exact closeUpName_of_word gap (by simpa using (List.mem_filter.1 listed).2)
  rw [List.filter_map, kept, List.map_congr_left fixed, List.map_id]

/-- No word answers to a name that is all digits. -/
theorem filter_words_of_digits (f : Frame) (digits : Text.isDigits name = true) :
    (f.words.filter fun k => !decide ((Key.named k).Answers name anyCase)) = f.words := by
  rw [List.filter_eq_self]
  intro k listed
  have word : Text.isDigits k = false := by simpa [words] using (List.mem_filter.1 listed).2
  have routed : Key.named k ≠ Key.parse name := fun same =>
    ne_of_digits word digits (Key.parse_eq_named.1 same.symm).1.symm
  simp [Key.answers_of_digits digits, routed, ne_of_digits word digits]

/-- Of the words those are left that do not answer to the name, and they keep their order. -/
theorem words_unset (f : Frame) (name : String) (anyCase shift : Bool) :
    (f.unset name anyCase shift).1.words =
      f.words.filter fun k => !decide ((Key.named k).Answers name anyCase) := by
  cases routed : Key.parse name with
  | numbered gap =>
      rcases Key.parse_eq_numbered.1 routed with ⟨same, small⟩
      have digits : Text.isDigits name = true :=
        Key.isDigits_of_position? (Key.position?_eq_some.2 ⟨same, small⟩)
      rw [f.filter_words_of_digits digits, ← f.words_without_digits digits, same]
      cases shift with
      | false =>
          have keys : ((f.erase (.numbered gap)).erase (.named (toString gap))).named.keys =
              f.named.keys.filter (· ≠ toString gap) := OrderedMap.keys_erase ..
          rw [unset_position small]
          exact congrArg (List.filter (!Text.isDigits ·)) keys
      | true => rw [words, keys_unset_position small, words_closeUpName]
  | named k =>
      rcases Key.parse_eq_named.1 routed with ⟨rfl, word⟩
      rw [unset, routed, words, keys_foldl_erase, words, List.filter_filter, List.filter_filter]
      refine List.filter_congr fun k listed => ?_
      have bound : (f.ref? (.named k)).isSome := OrderedMap.mem_keys.1 listed
      rw [Bool.and_comm]
      simp only [mem_targets word, bound, and_true, decide_not]

end Frame

namespace Tree

variable {t t' t₁ t₁' : Tree} {id : FrameId} {name : String} {anyCase anyCase' : Bool}
  {node : Node} {text : String}

theorem keepsShadows_unsetMove (name : String) (anyCase shift : Bool) :
    KeepsShadows (Frame.unsetMove name anyCase shift) := by
  unfold Frame.unsetMove
  split
  · exact keepsShadows_closeGap _
  · refine keepsShadows_of_dropped fun n _ answers => ?_
    rcases answers with routed | named | ⟨-, -, same⟩
    · exact Or.inr (Or.inl (by rw [(Key.parse_eq_numbered.1 routed.symm).1]))
    · cases named
    · cases same

theorem unset_of_missing (missing : t.frame? id = none) (name : String) (anyCase shift : Bool) :
    t.unset id name anyCase shift = .error (.notFound id) := by
  rw [unset, missing]

theorem exists_moves_unset {f : Frame} (separate : t.Separate) (frame : t.frame? id = some f)
    (name : String) (anyCase shift : Bool) :
    ∃ t₁, t.unset id name anyCase shift = .ok ((f.locate name anyCase).isSome, t₁) ∧
      t.Moves id (Frame.unsetMove name anyCase shift)
        (·.filter fun k => !decide ((Key.named k).Answers name anyCase)) t₁ := by
  rcases exists_unset frame name anyCase shift with ⟨t₁, ran, changed, nodes⟩
  have moves := Frame.rearranges_unset (separate.textsBound id f frame) name anyCase shift
  rw [Frame.unset_snd] at ran
  exact ⟨t₁, ran, changed.moves separate frame moves nodes (f.words_unset name anyCase shift)⟩

/-- The same answer beside trees that are alike. -/
def SameAnswer {α : Type} (x y : α × Tree) : Prop := y.1 = x.1 ∧ x.2.Alike y.2

theorem Alike.unset (alike : t.Alike t') (id : FrameId) (same : SameLookup name anyCase anyCase')
    (shift : Bool) :
    AgreeOn SameAnswer (t.unset id name anyCase shift) (t'.unset id name anyCase' shift) := by
  have located := alike.locateLocal_eq id (.refl name anyCase)
  rcases alike.frames id with ⟨missing, missing'⟩ | ⟨f, f', frame, frame', -⟩
  · rw [unset_of_missing missing, unset_of_missing missing']
    exact .error _
  · have flags : t'.unset id name anyCase' shift = t'.unset id name anyCase shift := by
      simp only [Tree.unset, frame', same.unset_eq f' shift]
    rcases exists_moves_unset alike.separate frame name anyCase shift with ⟨t₁, ran, moved⟩
    rcases exists_moves_unset alike.separate' frame' name anyCase shift with ⟨t₁', ran', moved'⟩
    rw [flags, ran, ran']
    refine .ok ⟨?_, alike.moves (keepsShadows_unsetMove name anyCase shift) moved moved'⟩
    rw [locateLocal, locateLocal, frame, frame'] at located
    exact congrArg Option.isSome located

/-- If a name that is all digits is removed, and no gap is closed, nothing else is touched. -/
theorem exists_sweeps_unset {f : Frame} (separate : t.Separate) (frame : t.frame? id = some f)
    (digits : Text.isDigits name = true) (anyCase : Bool) :
    ∃ removed t₁, t.unset id name anyCase false = .ok (removed, t₁) ∧ t.Sweeps id name t₁ := by
  rcases exists_unset frame name anyCase false with ⟨t₁, ran, changed, nodes⟩
  have moves := Frame.rearranges_unset_inPlace (separate.textsBound id f frame) name anyCase
  have words := f.words_unset name anyCase false
  rw [f.filter_words_of_digits digits] at words
  have moved : t.Moves id _ (fun words => words) t₁ :=
    changed.moves separate frame moves nodes words
  refine ⟨_, t₁, ran, moved.separate, moved.expander_eq, ?_, ?_⟩
  · intro i
    rw [moved.outline?_eq]
    simp
  · intro i key away
    by_cases here : i = id
    · subst here
      have kept : ¬ key.Answers name anyCase := by
        rw [Key.answers_of_digits digits, ← Key.answers_exactly]
        exact fun answers => away ⟨rfl, answers⟩
      refine changed.carries frame moves nodes ?_ (if_neg kept)
      intro old goes
      split at goes
      · cases goes
      · exact Option.some.inj goes
    · exact moved.others i here key

/-! ### Setting a variable -/

theorem modifyFrame_of_missing (missing : t.frame? id = none) (change : Frame → Frame) :
    t.modifyFrame id change = .error (.notFound id) := by
  have outside : ¬ id < t.frames.size := by simpa [frame?] using missing
  rw [modifyFrame, if_neg outside]

theorem bind_of_missing (missing : t.frame? id = none) (key : Key) (node : Node) (text : String) :
    t.bind id key node text = .error (.notFound id) := by
  have free : t.ref? id key = none := by simp [ref?, missing]
  have grown : ({ t with nodes := t.nodes.push node } : Tree).frame? id = none := missing
  rw [bind, free]
  exact modifyFrame_of_missing grown _

/-- What is bound after a sweep is bound on both sides, whatever has been swept away. -/
theorem Alike.bind_swept (alike : t.Alike t') (swept : t.Sweeps id name t₁)
    (swept' : t'.Sweeps id name t₁') (node : Node) (text : String) :
    AgreeOn Alike (t₁.bind id (Key.parse name) node text)
      (t₁'.bind id (Key.parse name) node text) := by
  have outline : t₁'.outline? id = t₁.outline? id := by
    rw [swept'.outline?_eq, alike.outline?_eq, swept.outline?_eq]
  rw [outline?, outline?] at outline
  cases frame : t₁.frame? id with
  | none =>
      rw [frame, Option.map_none, Option.map_eq_none_iff] at outline
      rw [bind_of_missing frame, bind_of_missing outline]
      exact .error _
  | some f =>
      rw [frame] at outline
      rcases Option.map_eq_some_iff.1 outline with ⟨f', frame', -⟩
      rcases swept.separate.valid.exists_binds frame (Key.parse name) node text with
        ⟨t₂, ref, bound, b⟩
      rcases swept'.separate.valid.exists_binds frame' (Key.parse name) node text with
        ⟨t₂', ref', bound', b'⟩
      rw [bound, bound']
      exact .ok (alike.puts (b.puts swept) (b'.puts swept'))

theorem Alike.bind (alike : t.Alike t') (id : FrameId) (name : String) (node : Node)
    (text : String) :
    AgreeOn Alike (t.bind id (Key.parse name) node text) (t'.bind id (Key.parse name) node text) :=
  alike.bind_swept (alike.separate.sweeps id name) (alike.separate'.sweeps id name) node text

theorem Alike.set_swept (alike : t.Alike t') (swept : t.Sweeps id name t₁)
    (swept' : t'.Sweeps id name t₁') (node : Node) :
    InStep Alike (t₁.set id name node) (t₁'.set id name node) := by
  have expander : t₁'.expander = t₁.expander := by
    rw [swept'.expander_eq, alike.expander_eq, swept.expander_eq]
  rw [InStep, set, set, value_lift_bind, value_lift_bind, expand, expand, expander]
  exact alike.bind_swept swept swept' node _

theorem Alike.set (alike : t.Alike t') (id : FrameId) (name : String) (node : Node) :
    InStep Alike (t.set id name node) (t'.set id name node) :=
  alike.set_swept (alike.separate.sweeps id name) (alike.separate'.sweeps id name) node

/-! ### Copying variables -/

theorem Alike.copy (alike : t.Alike t') {source : FrameId × Key}
    (seen : ¬ source.2.Shadowed (t.ref? source.1)) (target : FrameId) (name : String) :
    InStep Alike (t.copy source target name) (t'.copy source target name) := by
  rw [Tree.copy, Tree.copy, alike.node?_eq _ _ seen, alike.text_eq seen]
  cases t.node? source.1 source.2 with
  | none => exact inStep_throw _
  | some node =>
      rw [InStep, value_lift_bind, value_lift_bind]
      exact alike.bind target name node _

theorem inStep_copyAll {locate locate' : Tree → String → Option (FrameId × Key)}
    {target : FrameId} {names : List String}
    (same : ∀ name ∈ names, ∀ t t', Alike t t' → locate' t' name = locate t name)
    (seen : ∀ t name owner key, locate t name = some (owner, key) → ¬ key.Shadowed (t.ref? owner))
    (alike : t.Alike t') :
    InStep SameAnswer (copyAll locate target t names) (copyAll locate' target t' names) := by
  induction names generalizing t t' with
  | nil => exact inStep_pure ⟨rfl, alike⟩
  | cons name names ih =>
      rw [List.forall_mem_cons] at same
      rw [copyAll, copyAll, same.1 t t' alike]
      cases located : locate t name with
      | none => exact ih same.2 alike
      | some source =>
          refine (alike.copy (seen t name _ _ located) target name).bind fun t₁ t₁' alike₁ => ?_
          refine (ih same.2 alike₁).bind fun x y related => ?_
          exact inStep_pure ⟨congrArg (· + 1) related.1, related.2⟩

theorem Alike.enclosing (alike : t.Alike t') (id : FrameId)
    {act act' : FrameId → TreeUpdate (Nat × Tree)}
    (acts : ∀ parent, InStep SameAnswer (act parent) (act' parent)) :
    InStep SameAnswer
      (match t.frame? id with
        | none => throw (.notFound id)
        | some f => match f.parent with
          | none => pure (0, t)
          | some parent => act parent)
      (match t'.frame? id with
        | none => throw (.notFound id)
        | some f => match f.parent with
          | none => pure (0, t')
          | some parent => act' parent) := by
  rcases alike.frames id with ⟨missing, missing'⟩ | ⟨f, f', frame, frame', parent, -⟩
  · rw [missing, missing']
    exact inStep_throw _
  · rw [frame, frame']
    simp only [parent]
    cases f.parent with
    | none => exact inStep_pure ⟨rfl, alike⟩
    | some parent => exact acts parent

theorem Alike.inherit (alike : t.Alike t') (id : FrameId) {names : List String}
    (same : ∀ name ∈ names, SameLookup name anyCase anyCase') :
    InStep SameAnswer (t.inherit id names anyCase) (t'.inherit id names anyCase') := by
  refine alike.enclosing id fun parent => inStep_copyAll ?_ ?_ alike
  · exact fun name listed t t' alike => alike.locate_eq parent (same name listed) true
  · exact fun t name owner key located => not_shadowed_of_locateIn located

theorem Alike.returnTo (alike : t.Alike t') (id : FrameId) {names : List String}
    (same : ∀ name ∈ names, SameLookup name anyCase anyCase') :
    InStep SameAnswer (t.returnTo id names anyCase) (t'.returnTo id names anyCase') := by
  refine alike.enclosing id fun parent => inStep_copyAll ?_ ?_ alike
  · exact fun name listed t t' alike => alike.locate_eq id (same name listed) false
  · exact fun t name owner key located => not_shadowed_of_locateIn located

end Tree

end TemplateVars
