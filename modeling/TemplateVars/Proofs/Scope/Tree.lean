import TemplateVars.Proofs.Scope.Answers
import TemplateVars.Scope.Lookup

/-!
# Coherent trees

In a tree whose frames are separate every handle points to a node of its own. In
a coherent one, moreover, every text that is known is what the node behind the
handle expands to. Binding a node, rearranging a frame and opening a frame keep
the frames of a tree separate; so long as nodes are bound with their own texts,
they keep a tree coherent as well.
-/

namespace TemplateVars

namespace OrderedMap

theorem insert_of_find? {α β : Type} [DecidableEq α] {m : OrderedMap α β} {key : α} {value : β}
    (found : m.find? key = some value) : m.insert key value = m := by
  have put_of_lookup (l : List (α × β)) (found : lookup key l = some value) :
      put key value l = l := by
    induction l with
    | nil => cases found
    | cons e l ih => grind [lookup, put]
  cases m
  simp only [insert, mk.injEq]
  exact put_of_lookup _ found

end OrderedMap

/-- Binding the handle that a key has anyway changes nothing. -/
theorem Frame.insert_of_ref? {f : Frame} {key : Key} {ref : NodeRef}
    (found : f.ref? key = some ref) : f.insert key ref = f := by
  cases key with
  | numbered n =>
      have same : f.numbered.insert n ref = f.numbered := by
        apply SortedMap.ext_find?
        intro k
        rw [SortedMap.find?_insert]
        split
        · rename_i own
          rw [own]
          exact found.symm
        · rfl
      rw [insert, same]
  | named name => rw [insert, OrderedMap.insert_of_find? found]

namespace Tree

variable {t t' : Tree} {id : FrameId} {key : Key} {node : Node} {text : String} {f f' : Frame}

theorem ref?_of_frame? (frame : t.frame? id = some f) (key : Key) :
    t.ref? id key = f.ref? key := by
  simp [ref?, frame]

theorem cached?_of_frame? (frame : t.frame? id = some f) (key : Key) :
    t.cached? id key = f.cached? key := by
  simp [cached?, frame]

theorem locate_own (t : Tree) (id : FrameId) (name : String) (anyCase : Bool) :
    t.locate id name anyCase false = (t.locateLocal id name anyCase).map fun key => (id, key) := by
  rw [locate, if_neg Bool.false_ne_true, locateIn]
  cases t.locateLocal id name anyCase <;> rfl

/-- A tree that differs from another in one frame. -/
structure Reframes (t : Tree) (id : FrameId) (f : Frame) (t' : Tree) : Prop where
  frame?_eq : ∀ other, t'.frame? other = if other = id then some f else t.frame? other
  expander_eq : t'.expander = t.expander

theorem Reframes.frame?_self (r : t.Reframes id f t') : t'.frame? id = some f := by
  rw [r.frame?_eq, if_pos rfl]

theorem Reframes.ref?_eq (r : t.Reframes id f t') (other : FrameId) (key : Key) :
    t'.ref? other key = if other = id then f.ref? key else t.ref? other key := by
  rw [ref?, r.frame?_eq]
  split <;> rfl

theorem Reframes.cached?_eq (r : t.Reframes id f t') (other : FrameId) (key : Key) :
    t'.cached? other key = if other = id then f.cached? key else t.cached? other key := by
  rw [cached?, r.frame?_eq]
  split <;> rfl

theorem reframes_modify (t : Tree) (frame : t.frame? id = some f) (change : Frame → Frame)
    (nodes : Array Node) :
    t.Reframes id (change f) { t with frames := t.frames.modify id change, nodes } where
  frame?_eq := by
    intro other
    rw [frame?, Array.getElem?_modify]
    by_cases same : id = other
    · subst same
      rw [if_pos rfl, if_pos rfl]
      exact congrArg (Option.map change) frame
    · rw [if_neg same, if_neg (Ne.symm same)]
      rfl
  expander_eq := rfl

theorem modifyFrame_eq_ok {change : Frame → Frame} :
    t.modifyFrame id change = .ok t' ↔
      (t.frame? id).isSome ∧ t' = { t with frames := t.frames.modify id change } := by
  rw [modifyFrame]
  by_cases inside : id < t.frames.size
  · simp [frame?, inside, eq_comm]
  · simp [frame?, inside]

/-- What binding a node with its text does to a tree, `ref` being the handle of the key. -/
structure Binds (t : Tree) (id : FrameId) (key : Key) (node : Node) (text : String) (f : Frame)
    (ref : NodeRef) (t' : Tree) : Prop extends
    Reframes t id ((f.insert key ref).keepText key text) t' where
  frame : t.frame? id = some f
  ref_eq : ref = (f.ref? key).getD t.nodes.size
  nodes_eq : ∀ r, t'.nodes[r]? = if r = ref then some node else t.nodes[r]?

/-- Each handle points to a node. -/
def HandlesValid (t : Tree) : Prop :=
  ∀ id key ref, t.ref? id key = some ref → ref < t.nodes.size

theorem binds_of_bind (valid : t.HandlesValid) (ok : t.bind id key node text = .ok t') :
    ∃ f ref, t.Binds id key node text f ref t' := by
  rw [bind] at ok
  cases found : t.ref? id key with
  | some ref =>
      rw [found] at ok
      rcases modifyFrame_eq_ok.1 ok with ⟨present, rfl⟩
      rcases Option.isSome_iff_exists.1 present with ⟨f, frame⟩
      have own : f.ref? key = some ref := (ref?_of_frame? frame key).symm.trans found
      refine ⟨f, ref, ⟨?_, frame, ?_, ?_⟩⟩
      · rw [Frame.insert_of_ref? own]
        exact t.reframes_modify frame (·.keepText key text) _
      · rw [own]
        rfl
      · intro r
        have inside := valid id key ref found
        by_cases same : r = ref
        · subst same
          simp [inside]
        · simp [same, Ne.symm same]
  | none =>
      rw [found] at ok
      rcases modifyFrame_eq_ok.1 ok with ⟨present, rfl⟩
      rcases Option.isSome_iff_exists.1 present with ⟨f, frame⟩
      have absent : f.ref? key = none := (ref?_of_frame? frame key).symm.trans found
      refine ⟨f, t.nodes.size, ⟨?_, frame, ?_, ?_⟩⟩
      · exact t.reframes_modify frame (fun f => (f.insert key t.nodes.size).keepText key text) _
      · rw [absent]
        rfl
      · intro r
        exact Array.getElem?_push

theorem exists_bind (frame : t.frame? id = some f) (key : Key) (node : Node) (text : String) :
    ∃ t', t.bind id key node text = .ok t' := by
  rw [bind]
  have present : (t.frame? id).isSome := Option.isSome_iff_exists.2 ⟨f, frame⟩
  cases t.ref? id key with
  | some ref => exact ⟨_, modifyFrame_eq_ok.2 ⟨present, rfl⟩⟩
  | none => exact ⟨_, modifyFrame_eq_ok.2 ⟨present, rfl⟩⟩

/-- In a frame that exists a node can be bound at any key. -/
theorem HandlesValid.exists_binds (valid : t.HandlesValid) (frame : t.frame? id = some f)
    (key : Key) (node : Node) (text : String) :
    ∃ t' ref, t.bind id key node text = .ok t' ∧ t.Binds id key node text f ref t' := by
  rcases exists_bind frame key node text with ⟨t', bound⟩
  rcases binds_of_bind valid bound with ⟨f', ref, b⟩
  cases b.frame.symm.trans frame
  exact ⟨t', ref, bound, b⟩

/-- A tree in which each key has a node of its own. -/
structure Separate (t : Tree) : Prop where
  valid : t.HandlesValid
  /-- No two keys share a handle. -/
  apart : ∀ id key id' key' ref,
    t.ref? id key = some ref → t.ref? id' key' = some ref → id = id' ∧ key = key'
  textsBound : ∀ id f, t.frame? id = some f → f.TextsBound

/-- A tree in which what is known of the nodes is what they are. -/
structure Coherent (t : Tree) : Prop where
  valid : t.HandlesValid
  /-- No two keys share a handle. -/
  apart : ∀ id key id' key' ref,
    t.ref? id key = some ref → t.ref? id' key' = some ref → id = id' ∧ key = key'
  texts : ∀ id key text, t.cached? id key = some text →
    ∃ node, t.node? id key = some node ∧ text = t.expander.textOf node

/-- A tree in which no argument has a position that is too great. -/
def InRange (t : Tree) : Prop := ∀ id key, (t.ref? id key).isSome → key.InRange

/-- A tree whose frames come after those that enclose them. -/
def Nested (t : Tree) : Prop := ∀ id parent, t.parent? id = some parent → parent < id

theorem Coherent.separate (coherent : t.Coherent) : t.Separate where
  valid := coherent.valid
  apart := coherent.apart
  textsBound := by
    intro id f frame key known
    rcases Option.isSome_iff_exists.1 known with ⟨text, found⟩
    rw [← cached?_of_frame? frame] at found
    rcases coherent.texts id key text found with ⟨node, bound, -⟩
    rcases Option.bind_eq_some_iff.1 bound with ⟨ref, own, -⟩
    rw [← ref?_of_frame? frame, own]
    rfl

theorem Binds.ref?_eq {ref : NodeRef} (b : t.Binds id key node text f ref t') (id' : FrameId)
    (key' : Key) :
    t'.ref? id' key' = if id' = id ∧ key' = key then some ref else t.ref? id' key' := by
  rw [b.toReframes.ref?_eq]
  by_cases same : id' = id
  · subst same
    simp [ref?_of_frame? b.frame]
  · simp [same]

theorem Binds.isSome_ref? {ref : NodeRef} (b : t.Binds id key node text f ref t') :
    (t'.ref? id key).isSome := by
  rw [b.ref?_eq, if_pos ⟨rfl, rfl⟩]
  rfl

theorem Binds.cached?_eq {ref : NodeRef} (b : t.Binds id key node text f ref t') (id' : FrameId)
    (key' : Key) :
    t'.cached? id' key' = if id' = id ∧ key' = key then some text else t.cached? id' key' := by
  rw [b.toReframes.cached?_eq]
  by_cases same : id' = id
  · subst same
    simp [cached?_of_frame? b.frame]
  · simp [same]

/-- The handle of a binding belongs to no other key: it was that key's, or it is new. -/
theorem Binds.eq_of_ref? {ref : NodeRef} (b : t.Binds id key node text f ref t')
    (separate : t.Separate) {id' : FrameId} {key' : Key} (found : t.ref? id' key' = some ref) :
    id' = id ∧ key' = key := by
  have given := b.ref_eq
  cases bound : f.ref? key with
  | none =>
      rw [bound] at given
      have older := separate.valid id' key' ref found
      rw [given] at older
      exact absurd older (Nat.lt_irrefl _)
  | some held =>
      rw [bound] at given
      apply separate.apart id' key' id key ref found
      rw [ref?_of_frame? b.frame, bound, given]
      rfl

/-- If each key has its own node, a binding leaves the nodes of all other keys as they are. -/
theorem Binds.node?_eq {ref : NodeRef} (b : t.Binds id key node text f ref t')
    (separate : t.Separate) (id' : FrameId) (key' : Key) :
    t'.node? id' key' = if id' = id ∧ key' = key then some node else t.node? id' key' := by
  rw [node?, b.ref?_eq]
  split
  · rw [Option.bind_some, b.nodes_eq, if_pos rfl]
  · rename_i other
    rw [node?]
    cases found : t.ref? id' key' with
    | none => rfl
    | some r =>
        rw [Option.bind_some, Option.bind_some, b.nodes_eq, if_neg]
        rintro rfl
        exact other (b.eq_of_ref? separate found)

theorem Binds.lt_size_iff {ref : NodeRef} (b : t.Binds id key node text f ref t') (r : NodeRef) :
    r < t'.nodes.size ↔ r = ref ∨ r < t.nodes.size := by
  rw [← not_iff_not, not_or, Nat.not_lt, Nat.not_lt, ← Array.getElem?_eq_none_iff,
    ← Array.getElem?_eq_none_iff, b.nodes_eq]
  by_cases same : r = ref <;> simp [same]

theorem Binds.separate {ref : NodeRef} (b : t.Binds id key node text f ref t')
    (separate : t.Separate) : t'.Separate := by
  refine ⟨?_, ?_, ?_⟩
  · intro other key' r found
    rw [b.ref?_eq] at found
    rw [b.lt_size_iff]
    split at found
    · exact Or.inl (Option.some.inj found).symm
    · exact Or.inr (separate.valid other key' r found)
  · intro i k i' k' r found found'
    rw [b.ref?_eq] at found found'
    split at found <;> split at found'
    · rename_i here here'
      exact ⟨here.1.trans here'.1.symm, here.2.trans here'.2.symm⟩
    · rename_i here away
      cases found
      exact absurd (b.eq_of_ref? separate found') away
    · rename_i away here
      cases found'
      exact absurd (b.eq_of_ref? separate found) away
    · exact separate.apart i k i' k' r found found'
  · intro other g frame key' known
    rw [b.frame?_eq] at frame
    split at frame
    · cases frame
      rw [Frame.cached?_keepText, Frame.cached?_insert] at known
      rw [Frame.ref?_keepText, Frame.ref?_insert]
      split
      · rfl
      · rename_i away
        rw [if_neg away] at known
        exact separate.textsBound id f b.frame key' known
    · exact separate.textsBound other g frame key' known

theorem Separate.bind (separate : t.Separate) (ok : t.bind id key node text = .ok t') :
    t'.Separate := by
  rcases binds_of_bind separate.valid ok with ⟨f, ref, b⟩
  exact b.separate separate

theorem Coherent.bind (coherent : t.Coherent)
    (ok : t.bind id key node (t.expander.textOf node) = .ok t') : t'.Coherent := by
  have separate := coherent.separate.bind ok
  rcases binds_of_bind coherent.valid ok with ⟨f, ref, b⟩
  refine ⟨separate.valid, separate.apart, ?_⟩
  intro other key' known found
  rw [b.cached?_eq] at found
  rw [b.node?_eq coherent.separate, b.expander_eq]
  split at found
  · rename_i here
    exact ⟨node, if_pos here, (Option.some.inj found).symm⟩
  · rename_i away
    rw [if_neg away]
    exact coherent.texts other key' known found

theorem InRange.bind (inRange : t.InRange) (valid : t.HandlesValid) (own : key.InRange)
    (ok : t.bind id key node text = .ok t') : t'.InRange := by
  rcases binds_of_bind valid ok with ⟨f, ref, b⟩
  intro other key' bound
  rw [b.ref?_eq] at bound
  split at bound
  · rename_i here
    exact here.2 ▸ own
  · exact inRange other key' bound

theorem Nested.reframe (nested : t.Nested) (changed : t.Reframes id f' t')
    (frame : t.frame? id = some f) (same : f'.parent = f.parent) : t'.Nested := by
  intro other parent enclosed
  apply nested other parent
  rw [parent?, changed.frame?_eq] at enclosed
  rw [parent?]
  split at enclosed
  · rename_i here
    rwa [here, frame, Option.bind_some, ← same]
  · exact enclosed

theorem Nested.bind (nested : t.Nested) (valid : t.HandlesValid)
    (ok : t.bind id key node text = .ok t') : t'.Nested := by
  rcases binds_of_bind valid ok with ⟨f, ref, b⟩
  exact nested.reframe b.toReframes b.frame (by simp)

section Rearranging

variable {move : Key → Option Key}

/-- Every handle of a tree with a rearranged frame was there before, under the key it left. -/
theorem Reframes.exists_ref? (changed : t.Reframes id f' t') (frame : t.frame? id = some f)
    (moves : f.Rearranges f' move) {other : FrameId} {ref : NodeRef}
    (found : t'.ref? other key = some ref) :
    ∃ old, t.ref? other old = some ref ∧ if other = id then move old = some key else old = key := by
  rw [changed.ref?_eq] at found
  split at found
  · rename_i here
    rcases (moves.ref?_iff key ref).1 found with ⟨old, before, moved⟩
    exact ⟨old, by rw [here, ref?_of_frame? frame, before], by rw [if_pos here, moved]⟩
  · rename_i away
    exact ⟨key, found, by rw [if_neg away]⟩

theorem InRange.rearrange (inRange : t.InRange) (frame : t.frame? id = some f)
    (moves : f.Rearranges f' move) (changed : t.Reframes id f' t') : t'.InRange := by
  intro other key bound
  rcases Option.isSome_iff_exists.1 bound with ⟨ref, found⟩
  rcases changed.exists_ref? frame moves found with ⟨old, before, origin⟩
  have range := inRange other old (Option.isSome_iff_exists.2 ⟨ref, before⟩)
  split at origin
  · exact moves.inRange old key origin range
  · exact origin ▸ range

theorem Separate.rearrange (separate : t.Separate) (frame : t.frame? id = some f)
    (moves : f.Rearranges f' move) (changed : t.Reframes id f' t') (nodes : t'.nodes = t.nodes) :
    t'.Separate := by
  refine ⟨?_, ?_, ?_⟩
  · intro other key ref found
    rcases changed.exists_ref? frame moves found with ⟨old, before, -⟩
    rw [nodes]
    exact separate.valid other old ref before
  · intro i k i' k' ref found found'
    rcases changed.exists_ref? frame moves found with ⟨old, before, from_⟩
    rcases changed.exists_ref? frame moves found' with ⟨old', before', from'⟩
    rcases separate.apart i old i' old' ref before before' with ⟨rfl, rfl⟩
    refine ⟨rfl, ?_⟩
    split at from_
    · rename_i here
      rw [if_pos here] at from'
      exact Option.some.inj (from_.symm.trans from')
    · rename_i away
      rw [if_neg away] at from'
      exact from_.symm.trans from'
  · intro other g found
    rw [changed.frame?_eq] at found
    split at found
    · cases found
      exact moves.textsBound (separate.textsBound id f frame)
    · exact separate.textsBound other g found

theorem Coherent.rearrange (coherent : t.Coherent) (frame : t.frame? id = some f)
    (moves : f.Rearranges f' move) (changed : t.Reframes id f' t') (nodes : t'.nodes = t.nodes) :
    t'.Coherent := by
  have separate := coherent.separate.rearrange frame moves changed nodes
  refine ⟨separate.valid, separate.apart, ?_⟩
  intro other key text found
  rw [changed.cached?_eq] at found
  rw [node?, changed.ref?_eq, changed.expander_eq, nodes]
  split at found
  · rename_i here
    rcases (moves.cached?_iff key text).1 found with ⟨old, known, moved⟩
    rw [← cached?_of_frame? frame] at known
    rcases coherent.texts id old text known with ⟨node, bound, same⟩
    rcases Option.bind_eq_some_iff.1 bound with ⟨ref, own, points⟩
    rw [ref?_of_frame? frame] at own
    rw [if_pos here, (moves.ref?_iff key ref).2 ⟨old, own, moved⟩]
    exact ⟨node, points, same⟩
  · rename_i away
    rw [if_neg away]
    exact coherent.texts other key text found

end Rearranging

theorem coherent_ofPage (title : String) (expander : Expander) :
    (ofPage title expander).Coherent := by
  have nothing (id : FrameId) (key : Key) :
      (ofPage title expander).ref? id key = none ∧
        (ofPage title expander).cached? id key = none := by
    cases id <;> cases key <;> simp [ofPage, ref?, cached?, frame?, Frame.ref?, Frame.cached?]
  refine ⟨?_, ?_, ?_⟩
  · intro id key ref found
    rw [(nothing id key).1] at found
    cases found
  · intro id key id' key' ref found
    rw [(nothing id key).1] at found
    cases found
  · intro id key text found
    rw [(nothing id key).2] at found
    cases found

theorem inRange_ofPage (title : String) (expander : Expander) :
    (ofPage title expander).InRange := by
  intro id key bound
  cases id <;> cases key <;> simp [ofPage, ref?, frame?, Frame.ref?] at bound

theorem nested_ofPage (title : String) (expander : Expander) :
    (ofPage title expander).Nested := by
  intro id parent enclosed
  cases id <;> simp [ofPage, parent?, frame?] at enclosed

/-- What opening a frame does to a tree: its handles are new, and each of them has one key. -/
structure Opens (t : Tree) (parent id : FrameId) (f : Frame) (t' : Tree) : Prop extends
    Reframes t id f t' where
  id_eq : id = t.frames.size
  enclosed : (t.frame? parent).isSome
  parent_eq : f.parent = some parent
  grown : t.nodes.size ≤ t'.nodes.size
  kept : ∀ r < t.nodes.size, t'.nodes[r]? = t.nodes[r]?
  unknown : ∀ key, f.cached? key = none
  inRange : ∀ key, (f.ref? key).isSome → key.InRange
  fresh : ∀ key ref, f.ref? key = some ref → t.nodes.size ≤ ref ∧ ref < t'.nodes.size
  apart : ∀ key key' ref, f.ref? key = some ref → f.ref? key' = some ref → key = key'

/-- The arguments without names have handles in a row. -/
theorem exists_of_find?_numbered {positional : List Node} {n : Nat} {ref first : NodeRef}
    (found : (SortedMap.ofList
      (positional.zipIdx.map fun e => (e.2 + 1, first + e.2))).find? n = some ref) :
    ∃ i, i < positional.length ∧ n = i + 1 ∧ ref = first + i := by
  have listed := SortedMap.kind.mem_of_find?_ofList found
  simp only [List.mem_map, Prod.mk.injEq] at listed
  rcases listed with ⟨e, listed, rfl, rfl⟩
  exact ⟨e.2, by simpa using List.snd_lt_of_mem_zipIdx listed, rfl, rfl⟩

/-- So have those with names. -/
theorem exists_of_find?_named {args : List (String × Node)} {name : String} {ref first : NodeRef}
    (found : (OrderedMap.ofList
      (args.zipIdx.map fun e => (e.1.1, first + e.2))).find? name = some ref) :
    ∃ i, ref = first + i ∧ (args.map (·.1))[i]? = some name := by
  have listed := OrderedMap.kind.mem_of_find?_ofList found
  simp only [List.mem_map, Prod.mk.injEq] at listed
  rcases listed with ⟨e, listed, rfl, rfl⟩
  refine ⟨e.2, rfl, ?_⟩
  rw [List.getElem?_map, List.mem_zipIdx_iff_getElem?.1 listed]
  rfl

theorem opens_of_push {parent : FrameId} {title : String} {args : Arguments}
    (ok : t.push parent title args = .ok (id, t')) : ∃ f, t.Opens parent id f t' := by
  rw [push] at ok
  cases enclosing : t.frame? parent with
  | none =>
      rw [enclosing] at ok
      cases ok
  | some outer =>
      rw [enclosing] at ok
      cases ok
      refine ⟨_, ⟨fun other => Array.getElem?_push, rfl⟩, rfl, by simp [enclosing], rfl, ?_, ?_, ?_,
        ?_, ?_, ?_⟩
      · simp only [Array.size_append]
        omega
      · intro r inside
        rw [Array.getElem?_append_left (by simp; omega), Array.getElem?_append_left inside]
      · intro key
        cases key <;> rfl
      · intro key bound
        cases key with
        | numbered n =>
            rcases Option.isSome_iff_exists.1 bound with ⟨ref, found⟩
            rcases exists_of_find?_numbered found with ⟨i, inside, rfl, -⟩
            rw [List.length_take] at inside
            exact Nat.le_trans inside (Nat.min_le_left ..)
        | named name => trivial
      · intro key ref found
        simp only [Array.size_append, List.size_toArray, List.length_map]
        cases key with
        | numbered n =>
            rcases exists_of_find?_numbered found with ⟨i, inside, -, rfl⟩
            lia
        | named name =>
            rcases exists_of_find?_named found with ⟨i, rfl, listed⟩
            have inside := (List.getElem?_eq_some_iff.1 listed).1
            rw [List.length_map] at inside
            lia
      · intro key key' ref found found'
        cases key with
        | numbered n =>
            rcases exists_of_find?_numbered found with ⟨i, inside, rfl, rfl⟩
            cases key' with
            | numbered n' =>
                rcases exists_of_find?_numbered found' with ⟨i', inside', rfl, same⟩
                rw [show i = i' by lia]
            | named name' =>
                rcases exists_of_find?_named found' with ⟨i', same, -⟩
                lia
        | named name =>
            rcases exists_of_find?_named found with ⟨i, rfl, listed⟩
            cases key' with
            | numbered n' =>
                rcases exists_of_find?_numbered found' with ⟨i', inside', -, same⟩
                lia
            | named name' =>
                rcases exists_of_find?_named found' with ⟨i', same, listed'⟩
                have equal : i = i' := by lia
                rw [← equal, listed] at listed'
                rw [Option.some.inj listed']

theorem Opens.separate {parent : FrameId} (opened : t.Opens parent id f t')
    (separate : t.Separate) : t'.Separate := by
  have older {other : FrameId} {key : Key} {ref : NodeRef} (found : t.ref? other key = some ref) :
      ¬ (t.nodes.size ≤ ref ∧ ref < t'.nodes.size) := by
    have inside := separate.valid other key ref found
    rintro ⟨outside, -⟩
    exact Nat.not_lt.2 outside inside
  refine ⟨?_, ?_, ?_⟩
  · intro other key ref found
    rw [opened.toReframes.ref?_eq] at found
    split at found
    · exact (opened.fresh key ref found).2
    · exact Nat.lt_of_lt_of_le (separate.valid other key ref found) opened.grown
  · intro i k i' k' ref found found'
    rw [opened.toReframes.ref?_eq] at found found'
    split at found <;> split at found'
    · rename_i here here'
      exact ⟨here.trans here'.symm, opened.apart k k' ref found found'⟩
    · exact absurd (opened.fresh k ref found) (older found')
    · exact absurd (opened.fresh k' ref found') (older found)
    · exact separate.apart i k i' k' ref found found'
  · intro other g found
    rw [opened.frame?_eq] at found
    split at found
    · cases found
      intro key known
      rw [opened.unknown] at known
      cases known
    · exact separate.textsBound other g found

theorem Opens.inRange_tree {parent : FrameId} (opened : t.Opens parent id f t')
    (inRange : t.InRange) : t'.InRange := by
  intro other key bound
  rw [opened.toReframes.ref?_eq] at bound
  split at bound
  · exact opened.inRange key bound
  · exact inRange other key bound

theorem Opens.nested {parent : FrameId} (opened : t.Opens parent id f t') (nested : t.Nested) :
    t'.Nested := by
  intro other outer enclosed
  rw [parent?, opened.frame?_eq] at enclosed
  split at enclosed
  · rename_i here
    rw [Option.bind_some, opened.parent_eq] at enclosed
    cases enclosed
    have inside : parent < t.frames.size := by
      simpa [frame?] using opened.enclosed
    rw [here, opened.id_eq]
    exact inside
  · exact nested other outer enclosed

theorem Coherent.push (coherent : t.Coherent) {parent : FrameId} {title : String}
    {args : Arguments} (ok : t.push parent title args = .ok (id, t')) : t'.Coherent := by
  rcases opens_of_push ok with ⟨f, opened⟩
  have separate := opened.separate coherent.separate
  refine ⟨separate.valid, separate.apart, ?_⟩
  intro other key text found
  rw [opened.toReframes.cached?_eq] at found
  split at found
  · rw [opened.unknown] at found
    cases found
  · rename_i away
    rcases coherent.texts other key text found with ⟨node, bound, same⟩
    rcases Option.bind_eq_some_iff.1 bound with ⟨ref, own, points⟩
    refine ⟨node, ?_, by rw [opened.expander_eq, same]⟩
    rw [node?, opened.toReframes.ref?_eq, if_neg away, own, Option.bind_some,
      opened.kept ref (coherent.valid other key ref own), points]

/-! ### What is located is bound -/

theorem ref?_of_locateLocal {name : String} {anyCase : Bool}
    (found : t.locateLocal id name anyCase = some key) : (t.ref? id key).isSome := by
  rcases Option.bind_eq_some_iff.1 found with ⟨f, frame, located⟩
  rw [ref?_of_frame? frame]
  exact (Frame.answers_of_locate located).2

theorem ref?_of_locateIn {name : String} {anyCase : Bool} {ids : List FrameId}
    (found : t.locateIn name anyCase ids = some (id, key)) : (t.ref? id key).isSome := by
  induction ids with
  | nil => cases found
  | cons first ids ih =>
      rw [locateIn] at found
      split at found
      · rename_i own located
        cases found
        exact ref?_of_locateLocal located
      · exact ih found

/-- What is bound has a node. -/
theorem HandlesValid.exists_node (valid : t.HandlesValid) (bound : (t.ref? id key).isSome) :
    ∃ node, t.node? id key = some node := by
  rcases Option.isSome_iff_exists.1 bound with ⟨ref, own⟩
  have inside : ref < t.nodes.size := valid id key ref own
  exact ⟨t.nodes[ref], by rw [node?, own, Option.bind_some, Array.getElem?_eq_getElem inside]⟩

theorem HandlesValid.isSome_node? (valid : t.HandlesValid) (id : FrameId) (key : Key) :
    (t.node? id key).isSome = (t.ref? id key).isSome := by
  rw [Bool.eq_iff_iff]
  constructor
  · intro points
    rcases Option.isSome_iff_exists.1 points with ⟨node, found⟩
    rcases Option.bind_eq_some_iff.1 found with ⟨ref, own, -⟩
    rw [own]
    rfl
  · intro bound
    rcases valid.exists_node bound with ⟨node, found⟩
    rw [found]
    rfl

theorem Coherent.exists_node (coherent : t.Coherent) {name : String} {anyCase upward : Bool}
    {start : FrameId} (found : t.locate start name anyCase upward = some (id, key)) :
    ∃ node, t.node? id key = some node :=
  coherent.valid.exists_node (ref?_of_locateIn found)

end Tree

end TemplateVars
