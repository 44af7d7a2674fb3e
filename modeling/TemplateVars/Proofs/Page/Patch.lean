import TemplateVars.Proofs.Page.Rows

/-!
# The least patch between two sets

A difference writes rows by name. The one that is taken between two sets writes
exactly the rows on which they differ, each once, so no other difference that
turns the first set into the second writes fewer. What it writes does not depend
on the rows it finds, and so writing it again changes nothing.
-/

namespace TemplateVars.RowDiff

/-- The names of the rows that a difference writes. -/
def written (d : RowDiff) : Finset String :=
  d.inserts.domain ∪ (d.updates.domain ∪ d.deletes.domain)

/-- A row that is not written stays as it is. -/
theorem find?_applyTo_of_not_written {d : RowDiff} {name : String} (untouched : name ∉ d.written)
    (rows : SortedMap String Variable) : (d.applyTo rows).find? name = rows.find? name := by
  simp only [written, Finset.mem_union, SortedMap.mem_domain, not_or, ne_eq, not_not] at untouched
  rcases untouched with ⟨notInserted, notUpdated, notDeleted⟩
  rw [find?_applyTo, notInserted, notUpdated, if_neg (SortedMap.find?_eq_none.1 notDeleted)]
  rfl

/-- A difference that turns one set into another writes every row on which they differ. -/
theorem mem_written_of_differs {d : RowDiff} {old new : VariableSet}
    (turns : d.applyTo old.vars = new.vars) {name : String}
    (differs : old.vars.find? name ≠ new.vars.find? name) : name ∈ d.written := by
  by_contra untouched
  rw [← turns, find?_applyTo_of_not_written untouched] at differs
  exact differs rfl

theorem card_written_le (d : RowDiff) : d.written.card ≤ d.total := by
  have outer := Finset.card_union_le d.inserts.domain (d.updates.domain ∪ d.deletes.domain)
  have inner := Finset.card_union_le d.updates.domain d.deletes.domain
  simp only [SortedMap.card_domain] at outer inner
  rw [written, total]
  omega

variable (old new : VariableSet)

/-- The rows that are written between two sets are those on which they differ. -/
theorem mem_written_between {name : String} :
    name ∈ (between old new).written ↔ old.vars.find? name ≠ new.vars.find? name := by
  rw [written, Finset.mem_union, Finset.mem_union, mem_inserts_between, mem_updates_between,
    mem_deletes_domain]
  cases old.vars.find? name <;> cases new.vars.find? name <;> simp

/-- No row is written twice. -/
structure WritesOnce (d : RowDiff) : Prop where
  inserts_updates : Disjoint d.inserts.domain d.updates.domain
  inserts_deletes : Disjoint d.inserts.domain d.deletes.domain
  updates_deletes : Disjoint d.updates.domain d.deletes.domain

theorem writesOnce_between : (between old new).WritesOnce where
  inserts_updates := by
    rw [Finset.disjoint_left]
    intro name inserted updated
    exact ((mem_updates_between old new).1 updated).1 ((mem_inserts_between old new).1 inserted).1
  inserts_deletes := by
    rw [Finset.disjoint_left]
    intro name inserted deleted
    exact ((mem_deletes_domain old new).1 deleted).1 ((mem_inserts_between old new).1 inserted).1
  updates_deletes := by
    rw [Finset.disjoint_left]
    intro name updated deleted
    exact ((mem_updates_between old new).1 updated).2.1 ((mem_deletes_domain old new).1 deleted).2

theorem WritesOnce.total_eq {d : RowDiff} (once : d.WritesOnce) : d.total = d.written.card := by
  have apart : Disjoint d.inserts.domain (d.updates.domain ∪ d.deletes.domain) :=
    Finset.disjoint_union_right.2 ⟨once.inserts_updates, once.inserts_deletes⟩
  rw [written, Finset.card_union_of_disjoint apart,
    Finset.card_union_of_disjoint once.updates_deletes]
  simp only [SortedMap.card_domain]
  rw [total, Nat.add_assoc]

/-- What makes a difference the least patch from one set to another, whatever rows it meets. -/
structure LeastPatch (d : RowDiff) : Prop where
  /-- Rows on which the two sets agree stay as they are, all others become those of the new set. -/
  patched : ∀ rows name, (d.applyTo rows).find? name =
    if old.vars.find? name = new.vars.find? name then rows.find? name else new.vars.find? name
  once : d.WritesOnce
  /-- As many rows are written as there are names on which the two sets differ. -/
  counted : ∃ names : Finset String,
    (∀ name, name ∈ names ↔ old.vars.find? name ≠ new.vars.find? name) ∧ d.total = names.card
  /-- Whatever else turns the first set into the second writes no fewer rows. -/
  least : ∀ other : RowDiff, other.applyTo old.vars = new.vars → d.total ≤ other.total
  isEmpty_iff : d.isEmpty = true ↔ old.vars = new.vars
  /-- Written twice, it leaves what it leaves when it is written once. -/
  again : ∀ rows, d.applyTo (d.applyTo rows) = d.applyTo rows

/-- Between any two sets the difference is the least patch from one to the other. -/
theorem leastPatch_between : LeastPatch old new (between old new) where
  patched := find?_applyTo_between old new
  once := writesOnce_between old new
  counted := ⟨(between old new).written, fun _ => mem_written_between old new,
    (writesOnce_between old new).total_eq⟩
  least := by
    intro other turns
    rw [(writesOnce_between old new).total_eq]
    refine le_trans (Finset.card_le_card ?_) other.card_written_le
    intro name differs
    exact mem_written_of_differs turns ((mem_written_between old new).1 differs)
  isEmpty_iff := by
    rw [isEmpty, beq_iff_eq, (writesOnce_between old new).total_eq, Finset.card_eq_zero]
    constructor
    · intro nothing
      apply SortedMap.ext_find?
      intro name
      by_contra differs
      have listed := (mem_written_between old new).2 differs
      rw [nothing] at listed
      exact Finset.notMem_empty name listed
    · intro same
      ext name
      rw [mem_written_between, same]
      simp
  again := by
    intro rows
    apply SortedMap.ext_find?
    intro name
    simp only [find?_applyTo_between]
    split <;> rfl

end TemplateVars.RowDiff
