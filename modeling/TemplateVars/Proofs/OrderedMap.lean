import TemplateVars.OrderedMap
import TemplateVars.Proofs.FiniteMap

/-!
# Look-ups in ordered maps

A look-up finds exactly the listed entries, also where a map is made from a
list. Renaming keys keeps what is bound, as long as no two keys end up the same.
-/

namespace TemplateVars.OrderedMap

universe u v

variable {α : Type u} {β : Type v} [DecidableEq α]

theorem lookup_eq (key : α) (l : List (α × β)) : lookup key l = l.lookup key := by
  induction l with
  | nil => rfl
  | cons e l ih =>
      rw [lookup, ih, FiniteMap.lookup_cons]
      simp only [eq_comm]

theorem find?_eq_some {m : OrderedMap α β} {key : α} {value : β} :
    m.find? key = some value ↔ (key, value) ∈ m.toList := by
  rw [find?, lookup_eq]
  exact FiniteMap.lookup_eq_some_of_nodup m.nodup

@[simp]
theorem find?_nothing (key : α) : (∅ : OrderedMap α β).find? key = none := rfl

/-- Maps in insertion order as a kind of finite map. -/
def kind : FiniteMap (OrderedMap α β) α β where
  find? := find?
  empty := empty
  insert := insert
  find?_empty := find?_empty
  find?_insert := find?_insert

/-- Renaming keeps what is bound, unless two keys are given the same new name. -/
theorem find?_mapKeys {f : α → α} {m : OrderedMap α β}
    (injective : ∀ k ∈ m.keys, ∀ k' ∈ m.keys, f k = f k' → k = k') {key : α} {value : β} :
    (m.mapKeys f).find? key = some value ↔ ∃ k, m.find? k = some value ∧ f k = key := by
  have nodup : ((m.toList.map fun e => (f e.1, e.2)).map (·.1)).Nodup := by
    have renamed : (m.toList.map fun e => (f e.1, e.2)).map (·.1) = m.keys.map f := by
      simp [keys]
    rw [renamed]
    exact m.nodup.map_on injective
  refine (kind.find?_ofList_of_nodup nodup).trans ?_
  simp only [List.mem_map, find?_eq_some, Prod.mk.injEq]
  constructor
  · rintro ⟨e, listed, rfl, rfl⟩
    exact ⟨e.1, listed, rfl⟩
  · rintro ⟨k, listed, rfl⟩
    exact ⟨(k, value), listed, rfl, rfl⟩

/-! ### The order of keys -/

@[simp]
theorem keys_erase (m : OrderedMap α β) (key : α) :
    (m.erase key).keys = m.keys.filter (· ≠ key) := by
  simp only [keys, erase, List.filter_map]
  rfl

theorem keys_foldl_insert (entries : List (α × β)) (m : OrderedMap α β)
    (nodup : (m.keys ++ entries.map (·.1)).Nodup) :
    (entries.foldl (fun m e => m.insert e.1 e.2) m).keys = m.keys ++ entries.map (·.1) := by
  induction entries generalizing m with
  | nil => simp
  | cons e entries ih =>
      have new : e.1 ∉ m.keys := by
        intro listed
        exact (List.nodup_append.1 nodup).2.2 _ listed _ (by simp) rfl
      have added : (m.insert e.1 e.2).keys = m.keys ++ [e.1] := by
        rw [keys_insert, if_neg new]
      rw [List.foldl_cons, ih]
      · simp [added]
      · simpa [added] using nodup

/-- Keys that stay different when they are renamed stay in their order. -/
theorem keys_mapKeys {f : α → α} {m : OrderedMap α β}
    (injective : ∀ k ∈ m.keys, ∀ k' ∈ m.keys, f k = f k' → k = k') :
    (m.mapKeys f).keys = m.keys.map f := by
  have renamed : (m.toList.map fun e => (f e.1, e.2)).map (·.1) = m.keys.map f := by
    simp [keys]
  have nodup : (m.keys.map f).Nodup := m.nodup.map_on injective
  rw [mapKeys, ofList, keys_foldl_insert]
  · rw [renamed]
    rfl
  · rw [renamed]
    simpa [keys, empty] using nodup

end TemplateVars.OrderedMap
