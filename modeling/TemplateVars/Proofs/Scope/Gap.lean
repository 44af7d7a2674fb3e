import TemplateVars.Proofs.Scope.Frame

/-!
# Closing gaps

A position can be bound as a number and, under the same digits, as a name. When
it is removed and its gap is closed up, what stands above it moves down by one
in both ways, each handle with its text. Nothing gets in the way of anything
else, and names that are no positions stay where they are.
-/

namespace TemplateVars

namespace Key

/-- The position that a key stands for, be it as a number or in digits. -/
def index? : Key → Option Nat
  | .numbered n => some n
  | .named name => position? name

/-- The key of the same kind for another position. -/
def withIndex : Key → Nat → Key
  | .numbered _, n => .numbered n
  | .named _, n => .named (toString n)

/-- The key that a key gets once position `removed` is closed up. -/
def closeUp (removed : Nat) (key : Key) : Key :=
  match key.index? with
  | some n => if removed < n then key.withIndex (n - 1) else key
  | none => key

@[simp]
theorem closeUp_numbered (removed n : Nat) :
    (numbered n).closeUp removed = .numbered (if removed < n then n - 1 else n) := by
  simp only [closeUp, index?, withIndex]
  split <;> rfl

@[simp]
theorem closeUp_named (removed : Nat) (name : String) :
    (named name).closeUp removed = .named (Frame.closeUpName removed name) := by
  simp only [closeUp, index?, withIndex, Frame.closeUpName, Frame.movedName?]
  cases position? name with
  | none => rfl
  | some n =>
      simp only
      split <;> rfl

theorem index?_named_toString {n : Nat} (small : n ≤ maxPosition) :
    (named (toString n)).index? = some n :=
  position?_toString small

theorem InRange.closeUp {key : Key} (range : key.InRange) (removed : Nat) :
    (key.closeUp removed).InRange := by
  cases key with
  | numbered n =>
      simp only [InRange, closeUp_numbered] at range ⊢
      split <;> omega
  | named name => simp [InRange]

theorem exists_closeUp_eq_numbered {p : Key → Prop} {removed n : Nat} :
    (∃ old, p old ∧ some (old.closeUp removed) = some (.numbered n)) ↔
      ∃ k, p (.numbered k) ∧ (if removed < k then k - 1 else k) = n := by
  constructor
  · rintro ⟨k | name, holds, same⟩
    · exact ⟨k, holds, by simpa using same⟩
    · simp at same
  · rintro ⟨k, holds, rfl⟩
    exact ⟨.numbered k, holds, by simp⟩

theorem exists_closeUp_eq_named {p : Key → Prop} {removed : Nat} {name : String} :
    (∃ old, p old ∧ some (old.closeUp removed) = some (.named name)) ↔
      ∃ old, p (.named old) ∧ Frame.closeUpName removed old = name := by
  constructor
  · rintro ⟨n | old, holds, same⟩
    · simp at same
    · exact ⟨old, holds, by simpa using same⟩
  · rintro ⟨old, holds, rfl⟩
    exact ⟨.named old, holds, by simp⟩

end Key

namespace Frame

theorem find?_stepDown {β : Type} (m : SortedMap Nat β) {k : Nat} (positive : 0 < k) (n : Nat) :
    (stepDown m k).find? n =
      (if n + 1 = k then m.find? k else none).or (if n = k then none else m.find? n) := by
  rw [stepDown]
  cases found : m.find? k with
  | none =>
      by_cases same : n = k
      · simp [same, found]
      · simp [same]
  | some v =>
      have before : n = k - 1 ↔ n + 1 = k := by omega
      simp only [SortedMap.find?_insert, SortedMap.find?_erase, before]
      split <;> simp

/-- Moving positions down one after another, from the least on. -/
theorem find?_foldl_stepDown {β : Type} {ks : List Nat} (ascending : ks.Pairwise (· < ·))
    (positive : ∀ k ∈ ks, 0 < k) (m : SortedMap Nat β) (n : Nat) :
    (ks.foldl stepDown m).find? n =
      (if n + 1 ∈ ks then m.find? (n + 1) else none).or (if n ∈ ks then none else m.find? n) := by
  induction ks generalizing m with
  | nil => simp
  | cons k ks ih =>
      rw [List.pairwise_cons] at ascending
      have first : 0 < k := positive k List.mem_cons_self
      have greater (h : n ∈ ks) : k < n := ascending.1 n h
      have greater' (h : n + 1 ∈ ks) : k < n + 1 := ascending.1 (n + 1) h
      rw [List.foldl_cons,
        ih ascending.2 fun k' later => positive k' (List.mem_cons_of_mem _ later)]
      simp only [find?_stepDown m first, List.mem_cons]
      grind

/-- Once a free position is closed up, what is above it has moved down by one. -/
theorem find?_closeUp {β : Type} {keys : List Nat} (ascending : keys.Pairwise (· < ·))
    {removed : Nat} {m : SortedMap Nat β} (free : m.find? removed = none)
    (listed : ∀ n, (m.find? n).isSome → n ∈ keys) (n : Nat) :
    ((keys.filter (removed < ·)).foldl stepDown m).find? n =
      if n < removed then m.find? n else m.find? (n + 1) := by
  have absent (k : Nat) (unlisted : k ∉ keys) : m.find? k = none := by
    rw [← Option.not_isSome_iff_eq_none]
    exact fun bound => unlisted (listed k bound)
  rw [find?_foldl_stepDown (ascending.filter _)]
  · simp only [List.mem_filter, decide_eq_true_eq]
    rcases Nat.lt_trichotomy n removed with below | rfl | above
    · grind
    · by_cases next : n + 1 ∈ keys <;> simp [next, absent, free]
    · by_cases next : n + 1 ∈ keys <;> by_cases here : n ∈ keys <;> grind
  · intro k moved
    rw [List.mem_filter, decide_eq_true_eq] at moved
    omega

theorem movedName?_eq_some {removed : Nat} {name moved : String} :
    movedName? removed name = some moved ↔
      ∃ n, name = toString n ∧ n ≤ Key.maxPosition ∧ removed < n ∧ moved = toString (n - 1) := by
  rw [movedName?]
  cases position : Key.position? name with
  | none =>
      constructor
      · nofun
      · rintro ⟨n, rfl, small, -⟩
        rw [Key.position?_toString small] at position
        cases position
  | some k =>
      rcases Key.position?_eq_some.1 position with ⟨rfl, small⟩
      constructor
      · intro found
        simp only at found
        split at found
        · rename_i above
          exact ⟨k, rfl, small, above, (Option.some.inj found).symm⟩
        · cases found
      · rintro ⟨n, same, -, above, rfl⟩
        rw [Key.toString_injective same]
        simp only [if_pos above]

/-- No two names but that of the gap get the same name when a gap is closed up. -/
theorem closeUpName_injective {removed : Nat} {name other : String}
    (apart : name ≠ toString removed) (apart' : other ≠ toString removed)
    (same : closeUpName removed name = closeUpName removed other) : name = other := by
  have stays {a b : String} {n : Nat} (above : removed < n) (small : n ≤ Key.maxPosition)
      (free : b ≠ toString removed) (kept : movedName? removed b = none)
      (same : toString (n - 1) = b) : a = b := by
    -- the name that a position moves to belongs to the gap or to a position that moves itself
    exfalso
    by_cases next : removed < n - 1
    · have moves : movedName? removed b = some (toString (n - 1 - 1)) :=
        movedName?_eq_some.2 ⟨n - 1, same.symm, by omega, next, rfl⟩
      rw [kept] at moves
      cases moves
    · have gap : n - 1 = removed := by omega
      rw [gap] at same
      exact free same.symm
  rw [closeUpName, closeUpName] at same
  cases moved : movedName? removed name with
  | none =>
      cases moved' : movedName? removed other with
      | none => simpa [moved, moved'] using same
      | some b =>
          rcases movedName?_eq_some.1 moved' with ⟨n, rfl, small, above, rfl⟩
          rw [moved, moved'] at same
          exact (stays above small apart moved same.symm).symm
  | some a =>
      rcases movedName?_eq_some.1 moved with ⟨n, rfl, small, above, rfl⟩
      cases moved' : movedName? removed other with
      | none =>
          rw [moved, moved'] at same
          exact stays above small apart' moved' same
      | some b =>
          rcases movedName?_eq_some.1 moved' with ⟨k, rfl, small', above', rfl⟩
          rw [moved, moved'] at same
          have numbers := Key.toString_injective same
          have equal : n = k := by omega
          rw [equal]

end Frame

namespace Key

open TemplateVars.Frame

variable {key other : Key} {n removed : Nat}

theorem closeUp_of_index? (index : key.index? = some n) :
    key.closeUp removed = if removed < n then key.withIndex (n - 1) else key := by
  simp only [closeUp, index]

theorem closeUp_of_index?_eq_none (nothing : key.index? = none) : key.closeUp removed = key := by
  simp only [closeUp, nothing]

@[simp]
theorem index?_withIndex {m : Nat} (small : m ≤ maxPosition) :
    (key.withIndex m).index? = some m := by
  cases key with
  | numbered k => rfl
  | named name => exact index?_named_toString small

theorem index?_le (range : key.InRange) (index : key.index? = some n) : n ≤ maxPosition := by
  cases key with
  | numbered k =>
      cases index
      exact range
  | named name => exact (position?_eq_some.1 index).2

/-- Nothing moves up to the last position, and what stood there has moved down or was removed. -/
theorem index?_closeUp_lt (small : removed ≤ maxPosition) (range : key.InRange)
    (apart : key.index? ≠ some removed) (index : (key.closeUp removed).index? = some n) :
    n < maxPosition := by
  cases before : key.index? with
  | none =>
      rw [closeUp_of_index?_eq_none before, before] at index
      cases index
  | some k =>
      have inside := index?_le range before
      have different : k ≠ removed := by
        rintro rfl
        exact apart before
      rw [closeUp_of_index? before] at index
      split at index
      · rw [index?_withIndex (by omega)] at index
        cases index
        omega
      · rw [before] at index
        cases index
        omega

/-- No two keys but those of the gap get the same key when a gap is closed up. -/
theorem closeUp_injective (small : removed ≤ maxPosition) (apart : key.index? ≠ some removed)
    (apart' : other.index? ≠ some removed) (same : key.closeUp removed = other.closeUp removed) :
    key = other := by
  have outside {name : String} (apart : (named name).index? ≠ some removed) :
      name ≠ toString removed := by
    rintro rfl
    exact apart (index?_named_toString small)
  cases key with
  | numbered m =>
      cases other with
      | numbered k =>
          simp only [index?, ne_eq, Option.some.injEq] at apart apart'
          simp only [closeUp_numbered, numbered.injEq] at same ⊢
          split at same <;> split at same <;> omega
      | named name => simp at same
  | named name =>
      cases other with
      | numbered k => simp at same
      | named name' =>
          simp only [closeUp_named, named.injEq] at same ⊢
          exact closeUpName_injective (outside apart) (outside apart') same

end Key

namespace Frame

section Closing

variable {β : Type} {removed : Nat}

theorem find?_closeUp_eq_some {keys : List Nat} (ascending : keys.Pairwise (· < ·))
    {m : SortedMap Nat β} (free : m.find? removed = none)
    (listed : ∀ n, (m.find? n).isSome → n ∈ keys) {n : Nat} {v : β} :
    ((keys.filter (removed < ·)).foldl stepDown m).find? n = some v ↔
      ∃ k, m.find? k = some v ∧ (if removed < k then k - 1 else k) = n := by
  rw [find?_closeUp ascending free listed]
  constructor
  · intro found
    split at found
    · rename_i below
      exact ⟨n, found, if_neg (by omega)⟩
    · rename_i above
      exact ⟨n + 1, found, if_pos (by omega)⟩
  · rintro ⟨k, found, rfl⟩
    have apart : k ≠ removed := by
      rintro rfl
      rw [free] at found
      cases found
    split
    · have back : k - 1 + 1 = k := by omega
      rw [if_neg (by omega), back, found]
    · rw [if_pos (by omega), found]

theorem find?_closeUpName_eq_some {m : OrderedMap String β}
    (free : m.find? (toString removed) = none) {name : String} {v : β} :
    (m.mapKeys (closeUpName removed)).find? name = some v ↔
      ∃ old, m.find? old = some v ∧ closeUpName removed old = name := by
  have apart {k : String} (listed : k ∈ m.keys) : k ≠ toString removed := by
    rintro rfl
    rw [OrderedMap.mem_keys, free] at listed
    cases listed
  apply OrderedMap.find?_mapKeys
  intro k listed k' listed' same
  exact closeUpName_injective (apart listed) (apart listed') same

/-- If no name has to move, nothing is to be done with the names. -/
theorem find?_of_no_move {m : OrderedMap String β} {keys : List String}
    (listed : ∀ name, (m.find? name).isSome → name ∈ keys)
    (stay : ∀ name ∈ keys, movedName? removed name = none) {name : String} {v : β} :
    m.find? name = some v ↔ ∃ old, m.find? old = some v ∧ closeUpName removed old = name := by
  have same {old : String} (found : m.find? old = some v) : closeUpName removed old = old := by
    rw [closeUpName, stay old (listed old (by simp [found]))]
    rfl
  constructor
  · exact fun found => ⟨name, found, same found⟩
  · rintro ⟨old, found, rfl⟩
    rwa [same found]

end Closing

theorem shiftDown_tables (f : Frame) (removed : Nat) :
    let moved := f.numbered.keys.filter (removed < ·)
    (f.shiftDown removed).numbered = moved.foldl stepDown f.numbered ∧
      (f.shiftDown removed).numberedTexts = moved.foldl stepDown f.numberedTexts ∧
      (f.shiftDown removed).parent = f.parent ∧
      ((f.shiftDown removed).named = f.named.mapKeys (closeUpName removed) ∧
          (f.shiftDown removed).namedTexts = f.namedTexts.mapKeys (closeUpName removed) ∨
        (∀ name ∈ f.named.keys, movedName? removed name = none) ∧
          (f.shiftDown removed).named = f.named ∧
          (f.shiftDown removed).namedTexts = f.namedTexts) := by
  rw [shiftDown]
  simp only
  split
  · exact ⟨rfl, rfl, rfl, Or.inl ⟨rfl, rfl⟩⟩
  · rename_i stay
    refine ⟨rfl, rfl, rfl, Or.inr ⟨?_, rfl, rfl⟩⟩
    simpa using stay

theorem ascending_keys {β : Type} (m : SortedMap Nat β) : m.keys.Pairwise (· < ·) := by
  refine List.pairwise_map.2 (m.sorted.imp ?_)
  intro a b below
  exact Nat.compare_eq_lt.1 below

/-- Closing up a free position rearranges what is bound. -/
theorem rearranges_shiftDown {f : Frame} (bound : f.TextsBound) {removed : Nat}
    (freeNumber : f.ref? (.numbered removed) = none)
    (freeName : f.ref? (.named (toString removed)) = none) :
    f.Rearranges (f.shiftDown removed) fun old => some (old.closeUp removed) := by
  rcases f.shiftDown_tables removed with ⟨numbered, numberedTexts, parent, names⟩
  have ascending := ascending_keys f.numbered
  have freeText {key : Key} (free : f.ref? key = none) : f.cached? key = none := by
    rw [← Option.not_isSome_iff_eq_none]
    intro known
    have present := bound key known
    rw [free] at present
    cases present
  have listedNumber (n : Nat) (there : (f.numbered.find? n).isSome) : n ∈ f.numbered.keys :=
    SortedMap.contains_iff.1 there
  have listedName (name : String) (there : (f.named.find? name).isSome) : name ∈ f.named.keys :=
    OrderedMap.mem_keys.2 there
  refine ⟨?_, ?_, parent, ?_⟩
  · intro key ref
    cases key with
    | numbered n =>
        rw [Key.exists_closeUp_eq_numbered, ref?, numbered]
        exact find?_closeUp_eq_some ascending freeNumber listedNumber
    | named name =>
        rw [Key.exists_closeUp_eq_named, ref?]
        rcases names with ⟨named, -⟩ | ⟨stay, named, -⟩
        · rw [named]
          exact find?_closeUpName_eq_some freeName
        · rw [named]
          exact find?_of_no_move listedName stay
  · intro key text
    cases key with
    | numbered n =>
        rw [Key.exists_closeUp_eq_numbered, cached?, numberedTexts]
        exact find?_closeUp_eq_some ascending (freeText freeNumber)
          fun k known => listedNumber k (bound (.numbered k) known)
    | named name =>
        rw [Key.exists_closeUp_eq_named, cached?]
        rcases names with ⟨-, namedTexts⟩ | ⟨stay, -, namedTexts⟩
        · rw [namedTexts]
          exact find?_closeUpName_eq_some (freeText freeName)
        · rw [namedTexts]
          exact find?_of_no_move (fun k known => listedName k (bound (.named k) known)) stay
  · rintro old _ ⟨⟩ range
    exact range.closeUp removed

/-- Where a binding goes when what stands at a position is removed and the gap is closed up. -/
def closeGap (gap : Nat) (key : Key) : Option Key :=
  if key.index? = some gap then none else some (key.closeUp gap)

theorem closeGap_eq_some {gap : Nat} {old key : Key} :
    closeGap gap old = some key ↔ old.index? ≠ some gap ∧ old.closeUp gap = key := by
  rw [closeGap]
  split <;> simp_all

theorem unset_position {f : Frame} {gap : Nat} (small : gap ≤ Key.maxPosition)
    (anyCase shift : Bool) :
    f.unset (toString gap) anyCase shift =
      (let rest := (f.erase (.numbered gap)).erase (.named (toString gap))
        if shift then rest.shiftDown gap else rest,
        f.numbered.contains gap || f.named.contains (toString gap)) := by
  rw [unset, Key.parse_eq_numbered.2 ⟨rfl, small⟩]

/-- Without what stood at a position, both ways to bind it are free. -/
theorem rearranges_erase_position (f : Frame) {gap : Nat} (small : gap ≤ Key.maxPosition) :
    f.Rearranges ((f.erase (.numbered gap)).erase (.named (toString gap))) fun old =>
      if old.index? = some gap then none else some old := by
  refine ((f.rearranges_erase (.numbered gap)).trans
    ((f.erase (.numbered gap)).rearranges_erase (.named (toString gap)))).congr ?_
  intro key
  cases key with
  | numbered n => by_cases same : n = gap <;> simp [Key.index?, same]
  | named name =>
      have spelled : Key.position? name = some gap ↔ name = toString gap := by
        rw [Key.position?_eq_some]
        exact and_iff_left small
      simp only [Key.index?, spelled, reduceCtorEq, if_false, Option.bind_some, Key.named.injEq]

/-- Removing a position and closing the gap moves everything that stood elsewhere. -/
theorem rearranges_unset_position {f : Frame} (bound : f.TextsBound) {gap : Nat}
    (small : gap ≤ Key.maxPosition) (anyCase : Bool) :
    f.Rearranges (f.unset (toString gap) anyCase true).1 (closeGap gap) := by
  have dropped := f.rearranges_erase_position small
  have closed : Rearranges ((f.erase (.numbered gap)).erase (.named (toString gap)))
      (((f.erase (.numbered gap)).erase (.named (toString gap))).shiftDown gap)
      fun old => some (old.closeUp gap) :=
    rearranges_shiftDown (dropped.textsBound bound) (by simp) (by simp)
  rw [unset_position small]
  refine (dropped.trans closed).congr ?_
  intro key
  by_cases gone : key.index? = some gap <;> simp [closeGap, gone]

/-- The names that are left keep their order. -/
theorem keys_unset_position {f : Frame} {gap : Nat} (small : gap ≤ Key.maxPosition)
    (anyCase : Bool) :
    (f.unset (toString gap) anyCase true).1.named.keys =
      (f.named.keys.filter (· ≠ toString gap)).map (closeUpName gap) := by
  rw [unset_position small]
  change (Frame.shiftDown _ gap).named.keys = _
  have listed : ((f.erase (.numbered gap)).erase (.named (toString gap))).named.keys =
      f.named.keys.filter (· ≠ toString gap) :=
    OrderedMap.keys_erase ..
  have apart {k : String} (left : k ∈ f.named.keys.filter (· ≠ toString gap)) :
      k ≠ toString gap := by
    simpa using (List.mem_filter.1 left).2
  rcases shiftDown_tables ((f.erase (.numbered gap)).erase (.named (toString gap))) gap with
    ⟨-, -, -, ⟨named, -⟩ | ⟨stay, named, -⟩⟩
  · rw [named, OrderedMap.keys_mapKeys, listed]
    rw [listed]
    intro k left k' left' same
    exact closeUpName_injective (apart left) (apart left') same
  · rw [listed] at stay
    rw [named, listed]
    have unmoved : ∀ k ∈ f.named.keys.filter (· ≠ toString gap), closeUpName gap k = k := by
      intro k left
      simp [closeUpName, stay k left]
    rw [List.map_congr_left unmoved, List.map_id']

end Frame

end TemplateVars
