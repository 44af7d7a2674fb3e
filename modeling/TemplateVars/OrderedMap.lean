/-!
# Finite maps in insertion order

An `OrderedMap` lists its entries in the order in which their keys first came
in. Binding a key again keeps its place, dropping a key closes the gap. The
view is `find?` together with `keys`.
-/

namespace TemplateVars

universe u v

/-- A finite map whose entries are listed in the order their keys first came in. -/
structure OrderedMap (α : Type u) (β : Type v) where
  /-- The entries in insertion order. -/
  toList : List (α × β)
  nodup : (toList.map (·.1)).Nodup

namespace OrderedMap

variable {α : Type u} {β : Type v} [DecidableEq α]

/-- The map without entries. -/
def empty : OrderedMap α β := ⟨[], .nil⟩

instance : EmptyCollection (OrderedMap α β) := ⟨empty⟩
instance : Inhabited (OrderedMap α β) := ⟨empty⟩

/-- The value of the first entry with this key. -/
def lookup (key : α) : List (α × β) → Option β
  | [] => none
  | (k, v) :: rest => if k = key then some v else lookup key rest

/-- Replace the entry of a key in place, or add one at the end. -/
def put (key : α) (value : β) : List (α × β) → List (α × β)
  | [] => [(key, value)]
  | (k, v) :: rest => if k = key then (key, value) :: rest else (k, v) :: put key value rest

theorem mem_keys_put {key k : α} {value : β} {l : List (α × β)} :
    k ∈ (put key value l).map (·.1) ↔ k = key ∨ k ∈ l.map (·.1) := by
  induction l with
  | nil => simp [put]
  | cons e rest ih =>
    obtain ⟨k', v⟩ := e
    unfold put
    split
    · rename_i h; subst h; simp
    · simp only [List.map_cons, List.mem_cons, ih]
      exact or_left_comm

theorem put_nodup (key : α) (value : β) {l : List (α × β)} (h : (l.map (·.1)).Nodup) :
    ((put key value l).map (·.1)).Nodup := by
  induction l with
  | nil => simp [put]
  | cons e rest ih =>
    obtain ⟨k, v⟩ := e
    have parts := List.nodup_cons.1 h
    unfold put
    split
    · rename_i eq; subst eq; exact h
    · rename_i ne
      refine List.nodup_cons.2 ⟨?_, ih parts.2⟩
      rw [mem_keys_put]
      rintro (e | m)
      · exact ne e
      · exact parts.1 m

/-- The value bound to a key. -/
def find? (m : OrderedMap α β) (key : α) : Option β := lookup key m.toList

/-- Whether a key is bound. -/
def contains (m : OrderedMap α β) (key : α) : Bool := (m.find? key).isSome

/-- The keys in insertion order. -/
def keys (m : OrderedMap α β) : List α := m.toList.map (·.1)

/-- Bind a key; a key that is bound already keeps its place. -/
def insert (m : OrderedMap α β) (key : α) (value : β) : OrderedMap α β :=
  ⟨put key value m.toList, put_nodup key value m.nodup⟩

/-- Drop the entry of a key. -/
def erase (m : OrderedMap α β) (key : α) : OrderedMap α β :=
  ⟨m.toList.filter fun e => e.1 ≠ key, m.nodup.sublist (List.filter_sublist.map _)⟩

/-- Bind the entries of a list one after another; of equal keys the last value wins. -/
def ofList (l : List (α × β)) : OrderedMap α β :=
  l.foldl (fun m e => m.insert e.1 e.2) empty

/-- Rename every key. -/
def mapKeys (f : α → α) (m : OrderedMap α β) : OrderedMap α β :=
  ofList (m.toList.map fun e => (f e.1, e.2))

@[simp]
theorem find?_empty (key : α) : (empty : OrderedMap α β).find? key = none := rfl

theorem lookup_put (key other : α) (value : β) (l : List (α × β)) :
    lookup other (put key value l) = if other = key then some value else lookup other l := by
  induction l with
  | nil => simp [put, lookup, eq_comm]
  | cons e rest ih => grind [put, lookup]

/-- Binding a key changes the look-up of that key only. -/
@[simp]
theorem find?_insert (m : OrderedMap α β) (key other : α) (value : β) :
    (m.insert key value).find? other = if other = key then some value else m.find? other :=
  lookup_put key other value m.toList

theorem lookup_filter_ne (key other : α) (l : List (α × β)) :
    lookup other (l.filter fun e => e.1 ≠ key) = if other = key then none else lookup other l := by
  induction l with
  | nil => simp [lookup]
  | cons e rest ih => grind [lookup]

/-- Dropping a key changes the look-up of that key only. -/
@[simp]
theorem find?_erase (m : OrderedMap α β) (key other : α) :
    (m.erase key).find? other = if other = key then none else m.find? other :=
  lookup_filter_ne key other m.toList

/-- A key is listed exactly when it is bound. -/
theorem mem_keys {m : OrderedMap α β} {key : α} : key ∈ m.keys ↔ (m.find? key).isSome := by
  obtain ⟨l, nodup⟩ := m
  simp only [keys, find?]
  clear nodup
  induction l with
  | nil => simp [lookup]
  | cons e rest ih => grind [lookup]

theorem keys_put (key : α) (value : β) (l : List (α × β)) :
    (put key value l).map (·.1) =
      if key ∈ l.map (·.1) then l.map (·.1) else l.map (·.1) ++ [key] := by
  induction l with
  | nil => simp [put]
  | cons e rest ih => grind [put]

/-- Binding a key that is bound keeps the list of keys; a new key comes last. -/
theorem keys_insert (m : OrderedMap α β) (key : α) (value : β) :
    (m.insert key value).keys = if key ∈ m.keys then m.keys else m.keys ++ [key] :=
  keys_put key value m.toList

end OrderedMap

end TemplateVars
