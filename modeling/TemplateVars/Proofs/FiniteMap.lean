import Mathlib.Data.List.Nodup

/-!
# Finite maps made from lists

Some maps list their entries by key, others as they came in. What they have in
common is that a new map binds nothing and that binding a key changes the
look-up of this key only. This settles what a map made from a list holds: of
equal keys the last entry wins, and where no key repeats all entries are there.
-/

namespace TemplateVars

universe u v w

/-- A kind of finite map by what its operations do to look-ups. -/
structure FiniteMap (M : Type w) (α : Type u) (β : Type v) [DecidableEq α] where
  find? : M → α → Option β
  empty : M
  insert : M → α → β → M
  find?_empty : ∀ key, find? empty key = none
  find?_insert : ∀ m key other value,
    find? (insert m key value) other = if other = key then some value else find? m other

namespace FiniteMap

variable {M : Type w} {α : Type u} {β : Type v} [DecidableEq α]

theorem lookup_cons (key : α) (e : α × β) (l : List (α × β)) :
    (e :: l).lookup key = if key = e.1 then some e.2 else l.lookup key := by
  rcases e with ⟨k, v⟩
  rw [List.lookup_cons]
  by_cases same : key = k
  · simp [same]
  · simp [same, beq_eq_false_iff_ne.2 same]

theorem mem_of_lookup_eq_some {key : α} {value : β} {l : List (α × β)}
    (found : l.lookup key = some value) : (key, value) ∈ l := by
  rcases List.lookup_eq_some_iff.1 found with ⟨before, after, rfl, -⟩
  exact List.mem_append_right before List.mem_cons_self

/-- Where no key repeats, a look-up finds exactly the listed entries. -/
theorem lookup_eq_some_of_nodup {key : α} {value : β} {l : List (α × β)}
    (nodup : (l.map (·.1)).Nodup) : l.lookup key = some value ↔ (key, value) ∈ l := by
  refine ⟨mem_of_lookup_eq_some, fun listed => ?_⟩
  rcases List.append_of_mem listed with ⟨before, after, rfl⟩
  refine List.lookup_eq_some_iff.2 ⟨before, after, rfl, fun e earlier => ?_⟩
  rw [List.map_append, List.map_cons, List.nodup_append] at nodup
  have apart : e.1 ≠ key :=
    nodup.2.2 e.1 (List.mem_map_of_mem (f := (·.1)) earlier) key List.mem_cons_self
  exact bne_iff_ne.2 apart.symm

variable (kind : FiniteMap M α β)

/-- Bind the entries of a list one after another. -/
def ofList (entries : List (α × β)) : M :=
  entries.foldl (fun m e => kind.insert m e.1 e.2) kind.empty

/-- Of the entries bound one after another the last one with a key wins. -/
theorem find?_foldl_insert (entries : List (α × β)) (m : M) (key : α) :
    kind.find? (entries.foldl (fun m e => kind.insert m e.1 e.2) m) key =
      (entries.reverse.lookup key).or (kind.find? m key) := by
  induction entries generalizing m with
  | nil => rfl
  | cons e entries ih =>
      rw [List.foldl_cons, ih, kind.find?_insert, List.reverse_cons, List.lookup_append,
        lookup_cons, List.lookup_nil, Option.or_assoc]
      by_cases same : key = e.1 <;> simp [same]

theorem find?_ofList (entries : List (α × β)) (key : α) :
    kind.find? (kind.ofList entries) key = entries.reverse.lookup key := by
  rw [ofList, find?_foldl_insert, kind.find?_empty, Option.or_none]

variable {entries : List (α × β)} {key : α} {value : β}

theorem mem_of_find?_ofList (found : kind.find? (kind.ofList entries) key = some value) :
    (key, value) ∈ entries := by
  rw [find?_ofList] at found
  exact List.mem_reverse.1 (mem_of_lookup_eq_some found)

/-- Where no key repeats, the map of a list has exactly its entries. -/
theorem find?_ofList_of_nodup (nodup : (entries.map (·.1)).Nodup) :
    kind.find? (kind.ofList entries) key = some value ↔ (key, value) ∈ entries := by
  have reversed : (entries.reverse.map (·.1)).Nodup := by
    rwa [List.map_reverse, List.nodup_reverse]
  rw [find?_ofList, lookup_eq_some_of_nodup reversed, List.mem_reverse]

end FiniteMap

end TemplateVars
