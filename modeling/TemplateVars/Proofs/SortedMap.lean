import Mathlib.Data.List.Basic
import TemplateVars.SortedMap
import TemplateVars.Proofs.FiniteMap

/-!
# Folds over finite maps

Maps are built and changed entry by entry. This file says what a whole list of
such changes does to look-ups: of equal keys the last entry bound wins, and
dropping a list of keys drops these keys and no others. Listing a map and
binding its entries in another one lays the first map over the second.
-/

namespace TemplateVars.SortedMap

universe u v

variable {α : Type u} {β : Type v} [Ord α]

section Lists

variable [Std.LawfulEqOrd α] [DecidableEq α]

theorem lookup_cons (key : α) (e : α × β) (l : List (α × β)) :
    lookup key (e :: l) = if key = e.1 then some e.2 else lookup key l := by
  simp [lookup]

theorem lookup_eq (key : α) (l : List (α × β)) : lookup key l = l.lookup key := by
  induction l with
  | nil => rfl
  | cons e l ih => rw [lookup_cons, ih, FiniteMap.lookup_cons]

theorem lookup_append (key : α) (l r : List (α × β)) :
    lookup key (l ++ r) = (lookup key l).or (lookup key r) := by
  simp only [lookup_eq, List.lookup_append]

theorem lookup_eq_none {key : α} {l : List (α × β)} :
    lookup key l = none ↔ key ∉ l.map (·.1) := by
  rw [lookup_eq, List.lookup_eq_none_iff, List.mem_map]
  simp only [bne_iff_ne, not_exists, not_and]
  exact forall₂_congr fun _ _ => ne_comm

end Lists

section Lawful

variable [Std.TransOrd α] [Std.LawfulEqOrd α]

omit [Std.TransOrd α] [Std.LawfulEqOrd α] in
@[simp]
theorem find?_nothing (key : α) : (∅ : SortedMap α β).find? key = none := rfl

omit [Std.TransOrd α] in
theorem keys_nodup (m : SortedMap α β) : m.keys.Nodup := by
  refine List.pairwise_map.2 (m.sorted.imp ?_)
  intro a b below same
  rw [same] at below
  simp at below

omit [Std.TransOrd α] in
theorem mem_keys_iff {m : SortedMap α β} {key : α} :
    key ∈ m.keys ↔ ∃ value, m.find? key = some value := by
  rw [← contains_iff, contains, Option.isSome_iff_exists]

omit [Std.TransOrd α] in
/-- What holds of all that a map binds can be tested along its entries. -/
theorem forall_find?_iff {m : SortedMap α β} {p : α → β → Prop} :
    (∀ key value, m.find? key = some value → p key value) ↔ ∀ e ∈ m.toList, p e.1 e.2 := by
  simp only [find?_eq_some, Prod.forall]

omit [Std.TransOrd α] in
theorem size_eq_zero_iff {m : SortedMap α β} : m.size = 0 ↔ ∀ key, m.find? key = none := by
  constructor
  · intro empty key
    rw [find?_eq_none, keys, List.length_eq_zero_iff.1 empty]
    simp
  · intro absent
    rw [size, List.length_eq_zero_iff, List.eq_nil_iff_forall_not_mem]
    intro e listed
    have found : m.find? e.1 = some e.2 := find?_eq_some.2 listed
    rw [absent] at found
    cases found

omit [Std.TransOrd α] in
theorem isEmpty_iff {m : SortedMap α β} : m.isEmpty = true ↔ ∀ key, m.find? key = none := by
  rw [← size_eq_zero_iff, isEmpty, size, List.isEmpty_iff, List.length_eq_zero_iff]

variable [DecidableEq α]

omit [Std.TransOrd α] in
/-- Looking up among the entries read backwards changes nothing, as keys do not repeat. -/
theorem lookup_reverse_toList (m : SortedMap α β) (key : α) :
    lookup key m.toList.reverse = m.find? key := by
  have nodup : (m.toList.reverse.map (·.1)).Nodup := by
    rw [List.map_reverse, List.nodup_reverse]
    exact m.keys_nodup
  apply Option.ext
  intro value
  rw [lookup_eq, FiniteMap.lookup_eq_some_of_nodup nodup, List.mem_reverse, find?_eq_some]

omit [Std.TransOrd α] in
theorem find?_foldl_erase (keys : List α) (m : SortedMap α β) (key : α) :
    (keys.foldl (·.erase ·) m).find? key = if key ∈ keys then none else m.find? key := by
  induction keys generalizing m with
  | nil => simp
  | cons k keys ih =>
      rw [List.foldl_cons, ih, find?_erase]
      by_cases first : key = k <;> by_cases later : key ∈ keys <;> simp [first, later]

/-- Maps in key order as a kind of finite map. -/
def kind : FiniteMap (SortedMap α β) α β where
  find? := find?
  empty := empty
  insert := insert
  find?_empty := find?_empty
  find?_insert := find?_insert

/-- Of the entries bound one after another the last one with a key wins. -/
theorem find?_foldl_insert (entries : List (α × β)) (m : SortedMap α β) (key : α) :
    (entries.foldl (fun m e => m.insert e.1 e.2) m).find? key =
      (lookup key entries.reverse).or (m.find? key) := by
  rw [lookup_eq]
  exact kind.find?_foldl_insert entries m key

theorem find?_ofList (entries : List (α × β)) (key : α) :
    (ofList entries).find? key = lookup key entries.reverse := by
  rw [lookup_eq]
  exact kind.find?_ofList entries key

theorem mem_keys_ofList {entries : List (α × β)} {key : α} :
    key ∈ (ofList entries).keys ↔ key ∈ entries.map (·.1) := by
  rw [← not_iff_not, ← find?_eq_none, find?_ofList, lookup_eq_none, List.map_reverse,
    List.mem_reverse]

omit [Std.TransOrd α] in
theorem lookup_filterMap {γ : Type} (m : SortedMap α β) (f : γ → α) (names : List γ) (key : α) :
    lookup key (names.filterMap fun n => (m.find? (f n)).map fun v => (f n, v)) =
      if key ∈ names.map f then m.find? key else none := by
  induction names with
  | nil => simp [lookup]
  | cons n names ih =>
      rw [List.filterMap_cons]
      cases found : m.find? (f n) with
      | none =>
          rw [Option.map_none, ih]
          by_cases same : key = f n
          · simp [same, found]
          · simp [same]
      | some v =>
          rw [Option.map_some, lookup_cons, ih]
          by_cases same : key = f n
          · simp [same, found]
          · simp [same]

/-- A map of the entries that another one has under some keys. -/
theorem find?_ofList_filterMap {γ : Type} (m : SortedMap α β) (f : γ → α) (names : List γ)
    (key : α) :
    (ofList (names.filterMap fun n => (m.find? (f n)).map fun v => (f n, v))).find? key =
      if key ∈ names.map f then m.find? key else none := by
  rw [find?_ofList, ← List.filterMap_reverse, lookup_filterMap]
  simp

/-- Binding all entries of one map in another lays the first over the second. -/
theorem find?_foldl_insert_toList (m n : SortedMap α β) (key : α) :
    (m.toList.foldl (fun n e => n.insert e.1 e.2) n).find? key =
      (m.find? key).or (n.find? key) := by
  rw [find?_foldl_insert, lookup_reverse_toList]

end Lawful

end TemplateVars.SortedMap
