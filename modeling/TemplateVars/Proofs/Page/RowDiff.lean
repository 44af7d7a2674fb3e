import TemplateVars.Page.RowDiff
import TemplateVars.Proofs.SortedMap

/-!
# Row differences as patches

The difference of two sets is written into rows that need not be those of
either set. A row on which the two sets agree stays as it is, every other row
becomes that of the new set. Written into the rows of the old set, the
difference leaves exactly the rows of the new one.
-/

namespace TemplateVars.RowDiff

variable (old new : VariableSet)

theorem mem_deletes_between {name : String} :
    name ∈ (between old new).deletes.keys ↔
      old.vars.find? name ≠ none ∧ new.vars.find? name = none := by
  rw [SortedMap.mem_keys_iff]
  simp only [between, SortedMap.find?_map, SortedMap.find?_filter, SortedMap.contains]
  cases old.vars.find? name <;> cases new.vars.find? name <;> simp

theorem find?_inserts_between (name : String) :
    (between old new).inserts.find? name =
      if old.vars.find? name = none then new.vars.find? name else none := by
  simp only [between, SortedMap.find?_filter, SortedMap.contains]
  cases old.vars.find? name <;> cases new.vars.find? name <;> simp

theorem find?_updates_between (name : String) :
    (between old new).updates.find? name =
      if old.vars.find? name = none ∨ old.vars.find? name = new.vars.find? name then none
      else new.vars.find? name := by
  simp only [between, SortedMap.find?_filter]
  cases stored : old.vars.find? name with
  | none => cases new.vars.find? name <;> simp
  | some v =>
      cases written : new.vars.find? name with
      | none => simp
      | some w => by_cases same : v = w <;> simp [same]

/-- What is updated or inserted is there afterwards, and of the rest what is not deleted stays. -/
theorem find?_applyTo (d : RowDiff) (rows : SortedMap String Variable) (name : String) :
    (d.applyTo rows).find? name =
      (d.updates.find? name).or
        ((d.inserts.find? name).or
          (if name ∈ d.deletes.keys then none else rows.find? name)) := by
  rw [applyTo, List.foldl_append, SortedMap.find?_foldl_insert_toList,
    SortedMap.find?_foldl_insert_toList, SortedMap.find?_foldl_erase]

/-- Rows on which the two sets agree stay as they are, all others become those of the new set. -/
theorem find?_applyTo_between (rows : SortedMap String Variable) (name : String) :
    ((between old new).applyTo rows).find? name =
      if old.vars.find? name = new.vars.find? name then rows.find? name
      else new.vars.find? name := by
  rw [find?_applyTo, find?_updates_between, find?_inserts_between]
  simp only [mem_deletes_between]
  cases stored : old.vars.find? name with
  | none => cases new.vars.find? name <;> simp
  | some v =>
      cases written : new.vars.find? name with
      | none => simp
      | some w => by_cases same : v = w <;> simp [same]

/-- A difference turns the rows it was taken from into those it was taken to. -/
theorem applyTo_between_self : (between old new).applyTo old.vars = new.vars := by
  apply SortedMap.ext_find?
  intro name
  rw [find?_applyTo_between]
  split
  · assumption
  · rfl

end TemplateVars.RowDiff
