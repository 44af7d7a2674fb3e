/-!
# Finite maps in key order

A `SortedMap` lists its entries by strictly ascending key, so two maps with the
same entries are equal and iterating one visits the keys in order. Its view is
`find?`: every operation is described by what it does to look-ups, and
`SortedMap.ext_find?` says that nothing else can be observed.
-/

namespace TemplateVars

universe u v w

/-- A finite map whose entries are listed by strictly ascending key. -/
structure SortedMap (α : Type u) (β : Type v) [Ord α] where
  /-- The entries in key order. -/
  toList : List (α × β)
  sorted : toList.Pairwise fun a b => compare a.1 b.1 = .lt

namespace SortedMap

variable {α : Type u} {β : Type v} {γ : Type w} [Ord α]

instance [DecidableEq α] [DecidableEq β] : DecidableEq (SortedMap α β)
  | ⟨a, _⟩, ⟨b, _⟩ =>
    if h : a = b then isTrue (by subst h; rfl)
    else isFalse fun e => h (congrArg toList e)

/-- The map without entries. -/
def empty : SortedMap α β := ⟨[], .nil⟩

instance : EmptyCollection (SortedMap α β) := ⟨empty⟩
instance : Inhabited (SortedMap α β) := ⟨empty⟩

/-- The value of the first entry with this key. -/
def lookup (key : α) : List (α × β) → Option β
  | [] => none
  | (k, v) :: rest => if compare key k = .eq then some v else lookup key rest

/-- Put an entry at its place in a sorted list, over an entry with the same key. -/
def put (key : α) (value : β) : List (α × β) → List (α × β)
  | [] => [(key, value)]
  | (k, v) :: rest =>
    match compare key k with
    | .lt => (key, value) :: (k, v) :: rest
    | .eq => (key, value) :: rest
    | .gt => (k, v) :: put key value rest

/-- The value bound to a key. -/
def find? (m : SortedMap α β) (key : α) : Option β := lookup key m.toList

/-- Whether a key is bound. -/
def contains (m : SortedMap α β) (key : α) : Bool := (m.find? key).isSome

/-- The number of entries. -/
def size (m : SortedMap α β) : Nat := m.toList.length

/-- Whether there is no entry. -/
def isEmpty (m : SortedMap α β) : Bool := m.toList.isEmpty

/-- The keys in order. -/
def keys (m : SortedMap α β) : List α := m.toList.map (·.1)

/-- The values in the order of their keys. -/
def values (m : SortedMap α β) : List β := m.toList.map (·.2)

/-- Entries whose key and value pass a test. -/
def filter (p : α → β → Bool) (m : SortedMap α β) : SortedMap α β :=
  ⟨m.toList.filter fun e => p e.1 e.2, m.sorted.filter _⟩

/-- Drop the entry of a key. -/
def erase (m : SortedMap α β) (key : α) : SortedMap α β :=
  m.filter fun k _ => compare key k != .eq

/-- Change every value and keep the keys. -/
def map (f : β → γ) (m : SortedMap α β) : SortedMap α γ :=
  ⟨m.toList.map fun e => (e.1, f e.2), List.pairwise_map.2 m.sorted⟩

theorem mem_put {key : α} {value : β} {e : α × β} :
    ∀ {l : List (α × β)}, e ∈ put key value l → e = (key, value) ∨ e ∈ l
  | [], h => by simpa [put] using h
  | (k, v) :: rest, h => by
    unfold put at h
    split at h
    · simpa using h
    · rcases List.mem_cons.1 h with h | h
      · exact Or.inl h
      · exact Or.inr (List.mem_cons_of_mem _ h)
    · rcases List.mem_cons.1 h with h | h
      · exact Or.inr (h ▸ List.mem_cons_self)
      · exact (mem_put h).imp_right (List.mem_cons_of_mem _)

@[simp]
theorem find?_empty (key : α) : (empty : SortedMap α β).find? key = none := rfl

/-- Changing values changes each look-up alike. -/
@[simp]
theorem find?_map (m : SortedMap α β) (f : β → γ) (key : α) :
    (m.map f).find? key = (m.find? key).map f := by
  obtain ⟨l, sorted⟩ := m
  simp only [find?, map]
  clear sorted
  induction l with
  | nil => rfl
  | cons e rest ih =>
    simp only [List.map_cons, lookup]
    split <;> simp_all

section Lawful

variable [Std.TransOrd α] [Std.LawfulEqOrd α]

theorem put_sorted (key : α) (value : β) :
    ∀ {l : List (α × β)}, l.Pairwise (fun a b => compare a.1 b.1 = .lt) →
      (put key value l).Pairwise fun a b => compare a.1 b.1 = .lt
  | [], _ => by simp [put]
  | (k, v) :: rest, h => by
    have below := (List.pairwise_cons.1 h).1
    have tail := (List.pairwise_cons.1 h).2
    unfold put
    split
    · rename_i lt
      refine List.pairwise_cons.2 ⟨fun e he => ?_, h⟩
      rcases List.mem_cons.1 he with rfl | he
      · exact lt
      · exact Std.TransCmp.lt_trans lt (below e he)
    · rename_i eq
      cases Std.LawfulEqCmp.eq_of_compare eq
      exact List.pairwise_cons.2 ⟨below, tail⟩
    · rename_i gt
      refine List.pairwise_cons.2 ⟨fun e he => ?_, put_sorted key value tail⟩
      rcases mem_put he with rfl | he
      · exact Std.OrientedCmp.lt_of_gt gt
      · exact below e he

/-- Bind a key to a value, over any value it had. -/
def insert (m : SortedMap α β) (key : α) (value : β) : SortedMap α β :=
  ⟨put key value m.toList, put_sorted key value m.sorted⟩

/-- Bind the entries of a list one after another; of equal keys the last wins. -/
def ofList (l : List (α × β)) : SortedMap α β :=
  l.foldl (fun m e => m.insert e.1 e.2) empty

omit [Std.TransOrd α] in
theorem lookup_put [DecidableEq α] (key other : α) (value : β) (l : List (α × β)) :
    lookup other (put key value l) = if other = key then some value else lookup other l := by
  induction l with
  | nil => simp [put, lookup]
  | cons e rest ih =>
    obtain ⟨k, v⟩ := e
    unfold put
    split
    · simp [lookup]
    · rename_i eq
      cases Std.LawfulEqCmp.eq_of_compare eq
      simp only [lookup, Std.LawfulEqOrd.compare_eq_iff_eq]
      split <;> rfl
    · rename_i gt
      have ne : key ≠ k := fun h => by subst h; simp at gt
      simp only [lookup, Std.LawfulEqOrd.compare_eq_iff_eq, ih]
      by_cases h : other = k
      · subst h; simp [Ne.symm ne]
      · simp [h]

/-- Binding a key changes the look-up of that key only. -/
@[simp]
theorem find?_insert [DecidableEq α] (m : SortedMap α β) (key other : α) (value : β) :
    (m.insert key value).find? other = if other = key then some value else m.find? other :=
  lookup_put key other value m.toList

omit [Std.TransOrd α] in
theorem lookup_eq_some {key : α} {value : β} {l : List (α × β)}
    (sorted : l.Pairwise fun a b => compare a.1 b.1 = .lt) :
    lookup key l = some value ↔ (key, value) ∈ l := by
  induction l with
  | nil => simp [lookup]
  | cons e rest ih =>
    obtain ⟨k, v⟩ := e
    have below := (List.pairwise_cons.1 sorted).1
    simp only [lookup, List.mem_cons, Prod.mk.injEq]
    split
    · rename_i h
      cases Std.LawfulEqCmp.eq_of_compare h
      constructor
      · intro h; exact Or.inl ⟨rfl, (Option.some.inj h).symm⟩
      · rintro (⟨-, rfl⟩ | h)
        · rfl
        · exact absurd (below _ h) (by simp)
    · rename_i h
      have ne : key ≠ k := fun e => h (e ▸ Std.ReflCmp.compare_self)
      simp [ne, ih (List.pairwise_cons.1 sorted).2]

omit [Std.TransOrd α] in
/-- A look-up finds exactly the listed entries. -/
theorem find?_eq_some {m : SortedMap α β} {key : α} {value : β} :
    m.find? key = some value ↔ (key, value) ∈ m.toList :=
  lookup_eq_some m.sorted

omit [Std.TransOrd α] in
theorem find?_eq_none {m : SortedMap α β} {key : α} :
    m.find? key = none ↔ key ∉ m.keys := by
  rw [Option.eq_none_iff_forall_ne_some]
  simp [keys, find?_eq_some]

omit [Std.TransOrd α] in
theorem contains_iff {m : SortedMap α β} {key : α} : m.contains key = true ↔ key ∈ m.keys := by
  rw [contains, Option.isSome_iff_ne_none, ne_eq, find?_eq_none, Classical.not_not]

omit [Std.TransOrd α] in
/-- Keeping entries by a test keeps the look-ups that pass it. -/
theorem find?_filter (m : SortedMap α β) (p : α → β → Bool) (key : α) :
    (m.filter p).find? key = (m.find? key).filter (p key) := by
  apply Option.ext
  intro value
  rw [find?_eq_some, Option.filter_eq_some_iff, find?_eq_some]
  exact List.mem_filter

omit [Std.TransOrd α] in
/-- Dropping a key changes the look-up of that key only. -/
@[simp]
theorem find?_erase [DecidableEq α] (m : SortedMap α β) (key other : α) :
    (m.erase key).find? other = if other = key then none else m.find? other := by
  rw [erase, find?_filter]
  by_cases h : other = key
  · subst h; simp
  · have : compare key other ≠ .eq := fun e => h (Std.LawfulEqCmp.eq_of_compare e).symm
    cases m.find? other <;> simp [h, this]

theorem toList_eq_of_find?_eq {l r : List (α × β)}
    (hl : l.Pairwise fun a b => compare a.1 b.1 = .lt)
    (hr : r.Pairwise fun a b => compare a.1 b.1 = .lt)
    (same : ∀ e, e ∈ l ↔ e ∈ r) : l = r := by
  induction l generalizing r with
  | nil =>
    cases r with
    | nil => rfl
    | cons e r => exact absurd ((same e).2 List.mem_cons_self) (by simp)
  | cons a l ih =>
    cases r with
    | nil => exact absurd ((same a).1 List.mem_cons_self) (by simp)
    | cons b r =>
      have la := (List.pairwise_cons.1 hl).1
      have rb := (List.pairwise_cons.1 hr).1
      have head : a = b := by
        rcases List.mem_cons.1 ((same a).1 List.mem_cons_self) with h | h
        · exact h
        · rcases List.mem_cons.1 ((same b).2 List.mem_cons_self) with h' | h'
          · exact h'.symm
          · have lt := rb a h
            have gt := Std.OrientedCmp.gt_of_lt (la b h')
            rw [lt] at gt
            cases gt
      subst head
      congr 1
      refine ih (List.pairwise_cons.1 hl).2 (List.pairwise_cons.1 hr).2 fun e => ?_
      constructor
      · intro h
        rcases List.mem_cons.1 ((same e).1 (List.mem_cons_of_mem _ h)) with rfl | h'
        · exact absurd (la _ h) (by simp)
        · exact h'
      · intro h
        rcases List.mem_cons.1 ((same e).2 (List.mem_cons_of_mem _ h)) with rfl | h'
        · exact absurd (rb _ h) (by simp)
        · exact h'

/-- Maps with the same look-ups are equal. -/
theorem ext_find? {m n : SortedMap α β} (same : ∀ key, m.find? key = n.find? key) : m = n := by
  have h : m.toList = n.toList := toList_eq_of_find?_eq m.sorted n.sorted fun e => by
    rw [← find?_eq_some, ← find?_eq_some, same]
  cases m; cases n; cases h; rfl

end Lawful

end SortedMap

end TemplateVars
