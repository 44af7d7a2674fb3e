import Mathlib.Algebra.BigOperators.Group.Finset.Piecewise
import Mathlib.Algebra.BigOperators.Group.Finset.Sigma
import TemplateVars.Proofs.Page.Record
import TemplateVars.Proofs.Page.RowDiff
import TemplateVars.Proofs.Saved.Collection

/-!
# Rows of a record

The variables of all sets of a record are its rows, each known by the names of
its set and its variable. Where no two sets share a name, rows can be counted
set by set, and the difference of two forms of a set counts the rows that
appear, change and disappear between them.
-/

namespace TemplateVars

namespace SortedMap

variable {α β : Type} [Ord α] [Std.LawfulEqOrd α] [DecidableEq α]

/-- The keys of a map as a finite set. -/
def domain (m : SortedMap α β) : Finset α := m.keys.toFinset

@[simp]
theorem mem_domain {m : SortedMap α β} {key : α} : key ∈ m.domain ↔ m.find? key ≠ none := by
  rw [domain, List.mem_toFinset, ne_eq, find?_eq_none, not_not]

theorem card_domain (m : SortedMap α β) : m.domain.card = m.size := by
  rw [domain, List.toFinset_card_of_nodup m.keys_nodup, size, keys, List.length_map]

end SortedMap

namespace RowDiff

variable (old new : VariableSet)

theorem mem_inserts_between {name : String} :
    name ∈ (between old new).inserts.domain ↔
      old.vars.find? name = none ∧ new.vars.find? name ≠ none := by
  rw [SortedMap.mem_domain, find?_inserts_between]
  split <;> simp_all

theorem mem_updates_between {name : String} :
    name ∈ (between old new).updates.domain ↔
      old.vars.find? name ≠ none ∧ new.vars.find? name ≠ none ∧
        old.vars.find? name ≠ new.vars.find? name := by
  rw [SortedMap.mem_domain, find?_updates_between]
  cases old.vars.find? name with
  | none => simp
  | some v => by_cases same : some v = new.vars.find? name <;> simp [same]

theorem mem_deletes_domain {name : String} :
    name ∈ (between old new).deletes.domain ↔
      old.vars.find? name ≠ none ∧ new.vars.find? name = none := by
  rw [← mem_deletes_between, SortedMap.domain, List.mem_toFinset]

theorem size_inserts_between :
    (between old new).inserts.size = (new.vars.domain \ old.vars.domain).card := by
  rw [← SortedMap.card_domain]
  congr 1
  ext name
  rw [mem_inserts_between, Finset.mem_sdiff, SortedMap.mem_domain, SortedMap.mem_domain, not_ne_iff,
    and_comm]

theorem size_updates_between :
    (between old new).updates.size =
      ((old.vars.domain ∩ new.vars.domain).filter fun name =>
        old.vars.find? name ≠ new.vars.find? name).card := by
  rw [← SortedMap.card_domain]
  congr 1
  ext name
  rw [mem_updates_between, Finset.mem_filter, Finset.mem_inter, SortedMap.mem_domain,
    SortedMap.mem_domain, and_assoc]

theorem size_deletes_between :
    (between old new).deletes.size = (old.vars.domain \ new.vars.domain).card := by
  rw [← SortedMap.card_domain]
  congr 1
  ext name
  rw [mem_deletes_domain, Finset.mem_sdiff, SortedMap.mem_domain, SortedMap.mem_domain, not_ne_iff]

end RowDiff

namespace PageRecord

/-- The names of the stored sets. -/
def names (r : PageRecord) : Finset String := (r.sets.values.map (·.name)).toFinset

/-- The variables and the revision that are stored under a name. -/
def saved? (r : PageRecord) (name : String) : Option (SortedMap String Variable × RevId) :=
  (r.findByName? name).map fun e => (e.2.vars, e.2.revId)

/-- The variables that are stored under a name. -/
def vars? (r : PageRecord) (name : String) : Option (SortedMap String Variable) :=
  (r.saved? name).map (·.1)

/-- The variables of the stored set with a name; none if there is no such set. -/
def varsNamed (r : PageRecord) (name : String) : SortedMap String Variable :=
  (r.vars? name).getD ∅

/-- The stored rows, known by the names of set and variable. -/
def rows (r : PageRecord) : Finset (String × String) :=
  (r.sets.values.flatMap fun s => s.vars.keys.map fun row => (s.name, row)).toFinset

/-- What is stored in a row. -/
def row? (r : PageRecord) (key : String × String) : Option Variable :=
  (r.varsNamed key.1).find? key.2

theorem mem_values {r : PageRecord} {s : StoredSet} :
    s ∈ r.sets.values ↔ ∃ id, r.sets.find? id = some s := by
  simp [SortedMap.values, SortedMap.find?_eq_some]

theorem mem_names {r : PageRecord} {name : String} : name ∈ r.names ↔ r.HasName name := by
  simp only [names, List.mem_toFinset, List.mem_map, mem_values, HasName]
  constructor
  · rintro ⟨s, ⟨id, found⟩, named⟩
    exact ⟨id, s, found, named⟩
  · rintro ⟨id, s, found, named⟩
    exact ⟨s, ⟨id, found⟩, named⟩

theorem saved?_eq_some {r : PageRecord} (distinct : r.DistinctNames) {name : String}
    {vars : SortedMap String Variable} {rev : RevId} :
    r.saved? name = some (vars, rev) ↔
      ∃ id, r.sets.find? id = some { name := name, revId := rev, vars := vars } := by
  constructor
  · intro saved
    rcases Option.map_eq_some_iff.1 saved with ⟨⟨id, s⟩, found, same⟩
    rcases find?_of_findByName? found with ⟨stored, named⟩
    cases same
    exact ⟨id, by rw [stored, ← named]⟩
  · rintro ⟨id, found⟩
    simp [saved?, findByName?_of_distinct distinct found]

theorem vars?_of_stored {r : PageRecord} (distinct : r.DistinctNames) {id : SetId}
    {s : StoredSet} (found : r.sets.find? id = some s) : r.vars? s.name = some s.vars := by
  simp [vars?, saved?, findByName?_of_distinct distinct found]

theorem vars?_eq_none {r : PageRecord} {name : String} : r.vars? name = none ↔ ¬r.HasName name := by
  simp [vars?, saved?, findByName?_eq_none]

theorem varsNamed_of_stored {r : PageRecord} (distinct : r.DistinctNames) {id : SetId}
    {s : StoredSet} (found : r.sets.find? id = some s) : r.varsNamed s.name = s.vars := by
  simp [varsNamed, vars?_of_stored distinct found]

theorem varsNamed_of_absent {r : PageRecord} {name : String} (absent : ¬r.HasName name) :
    r.varsNamed name = ∅ := by
  simp [varsNamed, vars?_eq_none.2 absent]

theorem hasName_of_row? {r : PageRecord} {key : String × String} (stored : r.row? key ≠ none) :
    r.HasName key.1 := by
  by_contra absent
  rw [row?, varsNamed_of_absent absent] at stored
  exact stored rfl

theorem mem_rows {r : PageRecord} (distinct : r.DistinctNames) {key : String × String} :
    key ∈ r.rows ↔ r.row? key ≠ none := by
  simp only [rows, List.mem_toFinset, List.mem_flatMap, List.mem_map, mem_values]
  constructor
  · rintro ⟨s, ⟨id, found⟩, name, listed, rfl⟩
    rw [row?, varsNamed_of_stored distinct found, ne_eq, SortedMap.find?_eq_none, not_not]
    exact listed
  · intro stored
    rcases hasName_of_row? stored with ⟨id, s, found, named⟩
    rw [row?, ← named, varsNamed_of_stored distinct found, ne_eq, SortedMap.find?_eq_none,
      not_not] at stored
    exact ⟨s, ⟨id, found⟩, key.2, stored, Prod.ext named rfl⟩

/-- Where names differ, the loaded collection says of a name what is stored under it. -/
theorem find?_contents_toCollection {r : PageRecord} (distinct : r.DistinctNames) (name : String) :
    r.toCollection.contents.find? name = (r.vars? name).map fun vars => (name, vars) := by
  rw [SetCollection.find?_contents]
  rcases r.toCollection_cases name with ⟨id, s, found, rfl, loaded, -⟩ | ⟨absent, loaded, -⟩
  · simp [loaded, vars?_of_stored distinct found, asVariableSet]
  · simp [loaded, vars?_eq_none.2 absent]

/-- A record says what a collection says if the same variables are under each name. -/
theorem contents_toCollection_eq_iff {r : PageRecord} (distinct : r.DistinctNames)
    {c : SetCollection} (keyed : c.Keyed) :
    r.toCollection.contents = c.contents ↔
      ∀ name, r.vars? name = (c.sets.find? name).map (·.vars) := by
  have said (name : String) :
      c.contents.find? name = ((c.sets.find? name).map (·.vars)).map fun vars => (name, vars) := by
    rw [SetCollection.find?_contents]
    cases found : c.sets.find? name with
    | none => rfl
    | some s => simp [keyed name s found]
  have injective (name : String) :
      Function.Injective fun vars : SortedMap String Variable => (name, vars) :=
    Prod.mk_right_injective name
  constructor
  · intro same name
    apply Option.map_injective (injective name)
    rw [← find?_contents_toCollection distinct, ← said, same]
  · intro same
    apply SortedMap.ext_find?
    intro name
    rw [find?_contents_toCollection distinct, said, same]

theorem card_fibers {keys : Finset (String × String)} {names : Finset String}
    {rowsOf : String → Finset String}
    (fibers : ∀ key, key ∈ keys ↔ key.1 ∈ names ∧ key.2 ∈ rowsOf key.1) :
    keys.card = ∑ name ∈ names, (rowsOf name).card := by
  rw [← Finset.card_sigma]
  refine Finset.card_nbij' (fun key => ⟨key.1, key.2⟩) (fun key => (key.1, key.2)) ?_ ?_ ?_ ?_
  · intro key listed
    simpa using (fibers key).1 listed
  · intro key listed
    exact (fibers _).2 (by simpa using listed)
  · intro key listed
    rfl
  · intro key listed
    rfl

variable {r r' : PageRecord} (distinct : r.DistinctNames) (distinct' : r'.DistinctNames)

include distinct distinct'

theorem card_rows_sdiff :
    (r.rows \ r'.rows).card =
      ∑ name ∈ r.names, ((r.varsNamed name).domain \ (r'.varsNamed name).domain).card := by
  apply card_fibers
  intro key
  rw [Finset.mem_sdiff, Finset.mem_sdiff, mem_rows distinct, mem_rows distinct', mem_names,
    SortedMap.mem_domain, SortedMap.mem_domain, ← row?, ← row?, iff_and_self]
  rintro ⟨stored, -⟩
  exact hasName_of_row? stored

/-- The rows that another record lacks are those of the sets it lacks and those its sets lack. -/
theorem card_rows_gone :
    (r.rows \ r'.rows).card =
      ∑ name ∈ r.names \ r'.names, (r.varsNamed name).size +
        ∑ name ∈ r.names ∩ r'.names,
          ((r.varsNamed name).domain \ (r'.varsNamed name).domain).card := by
  rw [card_rows_sdiff distinct distinct', ← Finset.sum_inter_add_sum_sdiff r.names r'.names,
    Nat.add_comm]
  congr 1
  apply Finset.sum_congr rfl
  intro name listed
  have absent : ¬r'.HasName name := by
    rw [← mem_names]
    exact (Finset.mem_sdiff.1 listed).2
  have nothing : (r'.varsNamed name).domain = ∅ := by
    rw [varsNamed_of_absent absent]
    rfl
  rw [nothing, Finset.sdiff_empty, SortedMap.card_domain]

theorem card_rows_changed :
    ((r.rows ∩ r'.rows).filter fun key => r.row? key ≠ r'.row? key).card =
      ∑ name ∈ r.names ∩ r'.names,
        (((r.varsNamed name).domain ∩ (r'.varsNamed name).domain).filter fun row =>
          (r.varsNamed name).find? row ≠ (r'.varsNamed name).find? row).card := by
  apply card_fibers
  intro key
  rw [Finset.mem_filter, Finset.mem_filter, Finset.mem_inter, Finset.mem_inter, Finset.mem_inter,
    mem_rows distinct, mem_rows distinct', mem_names, mem_names, SortedMap.mem_domain,
    SortedMap.mem_domain, ← row?, ← row?, iff_and_self]
  rintro ⟨⟨stored, stored'⟩, -⟩
  exact ⟨hasName_of_row? stored, hasName_of_row? stored'⟩

end PageRecord

end TemplateVars
