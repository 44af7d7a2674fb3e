import Mathlib.Data.List.Induction
import TemplateVars.Command.Run
import TemplateVars.Proofs.Render.Saves

/-!
# Collections filled by name

A collection is filled set by set: each set is asked for by its name, which
creates it on first use, and then variables are added to it. All names are cut to
the width of storage keys on the way in and on the way out, wherever they come
from. So a collection is a map on names that have been cut: it tells names apart
exactly as far as storage does, and holds what was added last.
-/

namespace TemplateVars

theorem length_truncateName_le (name : String) : (truncateName name).length ≤ maxNameLength := by
  rw [← String.length_toList, toList_truncateName, List.length_take]
  exact Nat.min_le_left ..

namespace SortedMap

/-- Read backwards, a list gives the last of its entries that have a key. -/
theorem lookup_reverse {α β : Type} [Ord α] [Std.LawfulEqOrd α] [DecidableEq α] (key : α)
    (l : List (α × β)) :
    lookup key l.reverse = ((l.filter fun e => e.1 = key).map (·.2)).getLast? := by
  induction l using List.reverseRecOn with
  | nil => rfl
  | append_singleton l e ih =>
      rw [List.reverse_append, List.reverse_singleton, List.singleton_append, lookup_cons, ih,
        List.filter_append, List.map_append, List.getLast?_append]
      by_cases own : e.1 = key
      · simp [own]
      · simp [own, Ne.symm own]

end SortedMap

namespace SetCollection

/-- The variables that are added to sets in their order, each with the name of the set. -/
def additions (sets : List (String × List (String × Variable))) :
    List (String × String × Variable) :=
  sets.flatMap fun s => s.2.map fun e => (s.1, e)

/-- The variable that is added last under names that storage does not tell from two names. -/
def lastAdded (sets : List (String × List (String × Variable))) (set name : String) :
    Option Variable :=
  (((additions sets).filter fun a =>
    truncateName a.1 = truncateName set ∧ truncateName a.2.1 = truncateName name).map
      (·.2.2)).getLast?

/-- A collection that sets have been added to, and nothing else. -/
structure FilledBy (c : SetCollection) (sets : List (String × List (String × Variable))) :
    Prop where
  keyed : c.Keyed
  length_set_le : ∀ key s, c.sets.find? key = some s → key.length ≤ maxNameLength
  length_variable_le : ∀ key s, c.sets.find? key = some s →
    ∀ name v, s.vars.find? name = some v → name.length ≤ maxNameLength
  isSome_get?_iff : ∀ set,
    (c.get? set).isSome ↔ ∃ s ∈ sets, truncateName s.1 = truncateName set
  variableIn?_eq : ∀ set name, c.variableIn? set name = lastAdded sets set name

theorem insertSets_append (c : SetCollection)
    (first rest : List (String × List (String × Variable))) :
    c.insertSets (first ++ rest) = (c.insertSets first).insertSets rest :=
  List.foldl_append ..

variable (sets : List (String × List (String × Variable)))

theorem map_filter_additions (set name : String) :
    ((additions sets).filter fun a => truncateName a.1 = set ∧ truncateName a.2.1 = name).map
        (·.2.2) =
      (((sets.filter fun s => truncateName s.1 = set).flatMap (·.2)).filter fun e =>
        truncateName e.1 = name).map (·.2) := by
  induction sets with
  | nil => rfl
  | cons s sets ih =>
      rw [additions, List.flatMap_cons, ← additions, List.filter_append, List.map_append, ih,
        List.filter_cons]
      by_cases own : truncateName s.1 = set
      · simp [own, List.filter_map, Function.comp_def]
      · simp [own, List.filter_map, Function.comp_def]

/-- A new collection has a set for each name that was asked for, with all that was added to it. -/
theorem find?_insertSets_new (page : PageId) (rev : RevId) (key : String) :
    (insertSets { pageId := page, revId := rev } sets).sets.find? key =
      let own := sets.filter fun s => truncateName s.1 = key
      if own = [] then none else some ((VariableSet.ofName key).insertAll (own.flatMap (·.2))) :=
  find?_insertSets ..

theorem of_find?_insertSets {page : PageId} {rev : RevId} {key : String} {s : VariableSet}
    (found : (insertSets { pageId := page, revId := rev } sets).sets.find? key = some s) :
    truncateName key = key ∧ s =
      (VariableSet.ofName key).insertAll
        ((sets.filter fun s => truncateName s.1 = key).flatMap (·.2)) := by
  rw [find?_insertSets_new] at found
  simp only at found
  split at found
  · cases found
  · rename_i asked
    rcases List.exists_mem_of_ne_nil _ asked with ⟨e, listed⟩
    have cut : truncateName e.1 = key := by simpa using (List.mem_filter.1 listed).2
    exact ⟨by rw [← cut, truncateName_truncateName], (Option.some.inj found).symm⟩

/-- Of the variables that are added to a new set the last one of a stored name counts. -/
theorem get?_insertAll_new (key : String) (entries : List (String × Variable)) (name : String) :
    ((VariableSet.ofName key).insertAll entries).get? name =
      ((entries.filter fun e => truncateName e.1 = name).map (·.2)).getLast? := by
  rw [VariableSet.get?_insertAll, SortedMap.lookup_reverse, List.filter_map, List.map_map]
  exact Option.or_none

theorem filledBy_insertSets (page : PageId) (rev : RevId) :
    (insertSets { pageId := page, revId := rev } sets).FilledBy sets where
  keyed := by
    intro key s found
    rcases of_find?_insertSets sets found with ⟨cut, rfl⟩
    rw [VariableSet.name_insertAll]
    exact cut
  length_set_le := by
    intro key s found
    rw [← (of_find?_insertSets sets found).1]
    exact length_truncateName_le key
  length_variable_le := by
    intro key s found name v bound
    rcases of_find?_insertSets sets found with ⟨-, rfl⟩
    have added := get?_insertAll_new key
      ((sets.filter fun s => truncateName s.1 = key).flatMap (·.2)) name
    rw [VariableSet.get?, bound] at added
    rcases List.mem_map.1 (List.mem_of_getLast? added.symm) with ⟨e, listed, -⟩
    have cut : truncateName e.1 = name := by simpa using (List.mem_filter.1 listed).2
    rw [← cut]
    exact length_truncateName_le e.1
  isSome_get?_iff := by
    intro set
    rw [get?, find?_insertSets_new]
    simp only
    split
    · rename_i nothing
      simpa [List.filter_eq_nil_iff] using nothing
    · rename_i asked
      rcases List.exists_mem_of_ne_nil _ asked with ⟨e, listed⟩
      have cut := List.mem_filter.1 listed
      exact ⟨fun _ => ⟨e, cut.1, by simpa using cut.2⟩, fun _ => rfl⟩
  variableIn?_eq := by
    intro set name
    rw [variableIn?, get?, find?_insertSets_new, lastAdded, map_filter_additions]
    simp only
    split
    · rename_i nothing
      rw [nothing]
      rfl
    · exact get?_insertAll_new ..

end SetCollection

/-! ### Who fills collections -/

/-- What a stash has gathered is a new collection that sets have been added to. -/
def Stash.GatheredFrom (stash : Stash) (sets : List (String × List (String × Variable))) : Prop :=
  (stash.get? savedSetsKey = none ∧ sets = []) ∨
    ∃ page, stash.get? savedSetsKey = some (.insertSets { pageId := page, revId := 0 } sets)

namespace Engine

variable {σ : Type} (e : Engine σ)

/-- The set that a call of `save` adds, with its variables: nothing if there is none to save. -/
def fills (s : SaveCall) : List (String × List (String × Variable)) :=
  if e.features.data && s.call.options.gateOpen && !s.captured.isEmpty then
    [(s.call.options.setName.getD "", s.captured)]
  else []

theorem gatheredFrom_save (s : SaveCall) {stash : Stash}
    {sets : List (String × List (String × Variable))} (gathered : stash.GatheredFrom sets) :
    (e.save s.call s.tree s.frame s.page stash).value.2.GatheredFrom (sets ++ e.fills s) := by
  rw [value_save, fills]
  split
  · right
    simp only [Stash.get?_put]
    rcases gathered with ⟨new, rfl⟩ | ⟨page, before⟩
    · exact ⟨s.page, by rw [new]; rfl⟩
    · refine ⟨page, ?_⟩
      rw [before, SetCollection.insertSets_append]
      rfl
  · rw [List.append_nil]
    exact gathered

theorem gatheredFrom_gather (saves : List SaveCall) {stash : Stash}
    {sets : List (String × List (String × Variable))} (gathered : stash.GatheredFrom sets) :
    (e.gather saves stash).GatheredFrom (sets ++ saves.flatMap e.fills) := by
  induction saves generalizing stash sets with
  | nil => simpa [gather] using gathered
  | cons s saves ih =>
      rw [List.flatMap_cons, ← List.append_assoc]
      exact ih (e.gatheredFrom_save s gathered)

end Engine

namespace SetCollection

/--
A collection that is filled by name is a map on names that are cut, whoever fills
it: any sequence of sets and variables, a render that saves, or a diff that
collects the sets of a file.
-/
theorem fills_by_name :
    (∀ page rev sets, FilledBy (insertSets { pageId := page, revId := rev } sets) sets) ∧
      (∀ {σ : Type} (e : Engine σ) (saves : List SaveCall),
        match (e.gather saves {}).get? savedSetsKey with
        | some c => c.FilledBy (saves.flatMap e.fills)
        | none => saves.flatMap e.fills = []) ∧
      ∀ page rev (rendered : Command.RenderedSets),
        FilledBy (Command.collect page rev rendered)
          (rendered.toList.map fun e => (e.1, e.2.toList)) := by
  refine ⟨fun page rev sets => filledBy_insertSets sets page rev, ?_, fun page rev rendered =>
    filledBy_insertSets _ page rev⟩
  intro σ e saves
  have empty : Stash.GatheredFrom {} [] := .inl ⟨rfl, rfl⟩
  rcases e.gatheredFrom_gather saves empty with ⟨nothing, none⟩ | ⟨page, filled⟩
  · rw [nothing]
    exact none
  · rw [filled]
    exact filledBy_insertSets _ page 0

/-- Two names of more than fifty letters are one if their first fifty are the same. -/
example :
    let name (length : Nat) := String.ofList (List.replicate length 'x')
    let c := insertSets { pageId := 5, revId := 1 }
      [("s", [(name 51, .text "1"), (name 50, .text "2")])]
    c.variableIn? "s" (name 52) = some (.text "2") := by
  cbv

end SetCollection

end TemplateVars
