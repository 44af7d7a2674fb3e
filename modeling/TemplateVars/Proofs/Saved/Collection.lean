import TemplateVars.Proofs.SortedMap
import TemplateVars.Saved.Collection

/-!
# What a collection says

Two collections say the same when they have the same sets under the same keys,
each with the same name and the same variables; pages, revisions and
identifiers do not count. This is what planning tests before anything else.
-/

namespace TemplateVars

namespace VariableSet

@[simp]
theorem name_insertAll (s : VariableSet) (entries : List (String × Variable)) :
    (s.insertAll entries).name = s.name := by
  unfold insertAll
  induction entries generalizing s with
  | nil => rfl
  | cons e entries ih => exact ih (s.insert e.1 e.2)

theorem insertAll_append (s : VariableSet) (first rest : List (String × Variable)) :
    s.insertAll (first ++ rest) = (s.insertAll first).insertAll rest :=
  List.foldl_append ..

/-- Of variables added one after another the last one of a stored name counts. -/
theorem get?_insertAll (s : VariableSet) (entries : List (String × Variable)) (name : String) :
    (s.insertAll entries).get? name =
      (SortedMap.lookup name (entries.map fun e => (truncateName e.1, e.2)).reverse).or
        (s.get? name) := by
  have vars : (s.insertAll entries).vars =
      (entries.map fun e => (truncateName e.1, e.2)).foldl (fun m e => m.insert e.1 e.2)
        s.vars := by
    rw [List.foldl_map, insertAll]
    exact (List.foldl_hom VariableSet.vars fun _ _ => rfl).symm
  rw [get?, get?, vars, SortedMap.find?_foldl_insert]

end VariableSet

namespace SetCollection

/-- The name and the variables of every set, by key. -/
def contents (c : SetCollection) : SortedMap String (String × SortedMap String Variable) :=
  c.sets.map fun s => (s.name, s.vars)

/-- Every set is kept under its own name. -/
def Keyed (c : SetCollection) : Prop := ∀ key s, c.sets.find? key = some s → s.name = key

instance (c : SetCollection) : Decidable c.Keyed :=
  decidable_of_iff (∀ e ∈ c.sets.toList, e.2.name = e.1)
    (SortedMap.forall_find?_iff (p := fun key (s : VariableSet) => s.name = key)).symm

@[simp]
theorem find?_contents (c : SetCollection) (key : String) :
    c.contents.find? key = (c.sets.find? key).map fun s => (s.name, s.vars) :=
  SortedMap.find?_map ..

theorem sameVariables_iff {s t : VariableSet} :
    s.sameVariables t = true ↔ (s.name, s.vars) = (t.name, t.vars) := by
  simp [VariableSet.sameVariables]

theorem zip_all_same_iff (l r : List (String × VariableSet)) :
    (l.length == r.length &&
        (l.zip r).all fun (a, b) => a.1 == b.1 && a.2.sameVariables b.2) = true ↔
      l.map (fun e => (e.1, e.2.name, e.2.vars)) = r.map (fun e => (e.1, e.2.name, e.2.vars)) := by
  induction l generalizing r with
  | nil => cases r <;> simp
  | cons a l ih =>
      cases r with
      | nil => simp
      | cons b r =>
          simp only [List.map_cons, List.cons.injEq, ← ih r]
          simp only [List.length_cons, List.zip_cons_cons, List.all_cons, Bool.and_eq_true,
            beq_iff_eq, sameVariables_iff, Prod.mk.injEq, Nat.add_right_cancel_iff]
          tauto

/-- Collections count as the same exactly when they say the same. -/
theorem sameSets_iff {c d : SetCollection} : c.sameSets d = true ↔ c.contents = d.contents := by
  rw [sameSets, SortedMap.size, SortedMap.size, zip_all_same_iff]
  constructor
  · intro same
    cases hc : c.contents
    cases hd : d.contents
    congr 1
    have lists : c.contents.toList = d.contents.toList := same
    rw [hc, hd] at lists
    exact lists
  · intro same
    exact congrArg SortedMap.toList same

/-- The variable under the stored names of a set and of its own. -/
def stored? (c : SetCollection) (set name : String) : Option Variable :=
  (c.sets.find? set).bind (·.get? name)

theorem stored?_eq_contents (c : SetCollection) (set name : String) :
    c.stored? set name = (c.contents.find? set).bind (·.2.find? name) := by
  rw [stored?, find?_contents]
  cases c.sets.find? set <;> rfl

/-- Sets of a list come together in one if their names are cut to the same. -/
theorem find?_insertSets (c : SetCollection) (sets : List (String × List (String × Variable)))
    (set : String) :
    (c.insertSets sets).sets.find? set =
      let own := sets.filter fun e => truncateName e.1 = set
      if own = [] then c.sets.find? set
      else some (((c.sets.find? set).getD (.ofName set)).insertAll (own.flatMap (·.2))) := by
  induction sets generalizing c with
  | nil => rfl
  | cons e sets ih =>
      change ((c.modifySet e.1 (·.insertAll e.2)).insertSets sets).sets.find? set = _
      rw [ih, modifySet, SortedMap.find?_insert, setOrNew, List.filter_cons]
      by_cases own : truncateName e.1 = set
      · subst own
        by_cases others : (sets.filter fun e' => truncateName e'.1 = truncateName e.1) = []
        · simp [others]
        · simp [others, VariableSet.insertAll_append]
      · have apart : ¬ decide (truncateName e.1 = set) = true := by simpa using own
        simp only [if_neg apart, if_neg (Ne.symm own)]

end SetCollection

end TemplateVars
