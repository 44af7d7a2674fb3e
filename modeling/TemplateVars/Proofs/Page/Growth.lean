import Mathlib.Logic.Relation
import TemplateVars.Proofs.Page.WellFormed

/-!
# Growth of records

Once the deletes of a plan are done, each further write either rewrites a
stored set in place or stores a set under the next identifier. A record whose
identifiers are below the next one therefore only grows: its sets keep their
identifiers and names, their revisions do not go back, and the identifiers used
up on the way are all taken by new sets.
-/

namespace TemplateVars

namespace Plan

variable (p : Plan)

/-- Whether a plan can have something to write into a stored set. -/
def Concerns (id : SetId) (name : String) : Prop :=
  (∃ s ∈ p.inserts, s.name = name) ∨ p.updates.contains id = true

/-- Whether a plan can store a set of some name anew. -/
def Brings (name : String) : Prop :=
  (∃ s ∈ p.inserts, s.name = name) ∨ ∃ id e, p.updates.find? id = some e ∧ e.2.name = name

/-- What a single write of a plan can do once the deletes are done. -/
inductive Writes : PageRecord → PageRecord → Prop where
  | rewrite {r : PageRecord} {id : SetId} {s : StoredSet} (stored : r.sets.find? id = some s)
      (concerned : p.Concerns id s.name) (old new : VariableSet) :
      Writes r (r.rewrite p.newRevId id old new)
  | store {r : PageRecord} {s : VariableSet} (brought : p.Brings s.name) :
      Writes r (r.storeNew (s.toStored p.newRevId))

variable {p}

theorem Writes.pageId_eq {r r' : PageRecord} (write : p.Writes r r') : r'.pageId = r.pageId := by
  cases write with
  | rewrite stored => rw [PageRecord.rewrite_of_stored stored]
  | store => rfl

theorem Writes.hasSets {r r' : PageRecord} (write : p.Writes r r') :
    ∃ id s, r'.sets.find? id = some s := by
  cases write with
  | @rewrite id s stored _ old new =>
      exact ⟨id, s.rewritten p.newRevId old new, by simp [PageRecord.find?_rewrite, stored]⟩
  | @store s =>
      exact ⟨r.nextSetId, s.toStored p.newRevId, by simp [PageRecord.find?_storeNew]⟩

theorem writes_insertSet (r : PageRecord) {s : VariableSet} (planned : s ∈ p.inserts) :
    p.Writes r (r.insertSet p.newRevId s) := by
  unfold PageRecord.insertSet
  split
  · rename_i id stored found
    have ⟨present, named⟩ := PageRecord.find?_of_findByName? found
    exact .rewrite present (Or.inl ⟨s, planned, named.symm⟩) _ _
  · exact .store (Or.inl ⟨s, planned, rfl⟩)

theorem writes_updateSet (r : PageRecord) {e : SetId × VariableSet × VariableSet}
    (planned : e ∈ p.updates.toList) :
    p.Writes r (r.updateSet p.newRevId e.1 e.2.1 e.2.2) := by
  have found : p.updates.find? e.1 = some e.2 := SortedMap.find?_eq_some.2 planned
  cases present : r.sets.find? e.1 with
  | none =>
      rw [PageRecord.updateSet_of_gone present]
      exact .store (Or.inr ⟨e.1, e.2, found, rfl⟩)
  | some s =>
      rw [PageRecord.updateSet_of_stored present]
      exact .rewrite present (Or.inr (by simp [SortedMap.contains, found])) _ _

theorem writes_foldl {γ : Type} {change : PageRecord → γ → PageRecord} {changes : List γ}
    (each : ∀ r, ∀ c ∈ changes, p.Writes r (change r c)) (r : PageRecord) :
    Relation.ReflTransGen p.Writes r (changes.foldl change r) := by
  induction changes generalizing r with
  | nil => exact .refl
  | cons c changes ih =>
      exact .head (each r c List.mem_cons_self)
        (ih (fun r c listed => each r c (List.mem_cons_of_mem _ listed)) _)

theorem writes_afterInserts (r : PageRecord) :
    Relation.ReflTransGen p.Writes (p.afterDeletes r) (p.afterInserts r) :=
  writes_foldl (fun r _ planned => writes_insertSet r planned) _

theorem writes_withUpdates (r : PageRecord)
    {updates : List (SetId × VariableSet × VariableSet)} (planned : updates ⊆ p.updates.toList) :
    Relation.ReflTransGen p.Writes r (p.withUpdates r updates) :=
  writes_foldl (fun r _ listed => writes_updateSet r (planned listed)) _

theorem writes_afterUpdates (r : PageRecord) :
    Relation.ReflTransGen p.Writes (p.afterDeletes r) (p.afterUpdates r) :=
  (writes_afterInserts r).trans (writes_withUpdates _ (List.Subset.refl _))

@[simp]
theorem pageId_apply (now : Timestamp) (r : PageRecord) :
    (p.apply now r).record.pageId = r.pageId := by
  have unchanged : ∀ r', Relation.ReflTransGen p.Writes (p.afterDeletes r) r' →
      r'.pageId = r.pageId := by
    intro r' writes
    induction writes with
    | refl => rfl
    | tail _ write ih => rw [write.pageId_eq, ih]
  have applied : (p.apply now r).record.pageId = (p.afterUpdates r).pageId := by
    rw [record_apply]
  rw [applied, unchanged _ (writes_afterUpdates r)]

variable (p)

/-- What the writes of a plan can make of a record whose identifiers are below the next one. -/
structure Grows (r r' : PageRecord) : Prop where
  nextSetId_le : r.nextSetId ≤ r'.nextSetId
  kept : ∀ id s, r.sets.find? id = some s → ∃ s', r'.sets.find? id = some s' ∧
    s'.name = s.name ∧ s.revId ≤ s'.revId ∧ (s' = s ∨ p.Concerns id s.name)
  fresh : ∀ id s', r.sets.find? id = none → r'.sets.find? id = some s' →
    r.nextSetId ≤ id ∧ p.Brings s'.name
  filled : ∀ id, r.nextSetId ≤ id → id < r'.nextSetId → ∃ s, r'.sets.find? id = some s

variable {p}

theorem Grows.refl (r : PageRecord) : p.Grows r r where
  nextSetId_le := Nat.le_refl _
  kept := fun _ s found => ⟨s, found, rfl, Nat.le_refl _, Or.inl rfl⟩
  fresh := by
    intro id s' absent found
    rw [absent] at found
    cases found
  filled := fun _ least below => absurd below (Nat.not_lt.2 least)

theorem Grows.trans {r₁ r₂ r₃ : PageRecord} (first : p.Grows r₁ r₂) (second : p.Grows r₂ r₃) :
    p.Grows r₁ r₃ where
  nextSetId_le := Nat.le_trans first.nextSetId_le second.nextSetId_le
  kept := by
    intro id s found
    rcases first.kept id s found with ⟨s₂, found₂, name₂, rev₂, same₂⟩
    rcases second.kept id s₂ found₂ with ⟨s₃, found₃, name₃, rev₃, same₃⟩
    refine ⟨s₃, found₃, name₃.trans name₂, Nat.le_trans rev₂ rev₃, ?_⟩
    rw [name₂] at same₃
    rcases same₃ with rfl | concerned
    · exact same₂
    · exact Or.inr concerned
  fresh := by
    intro id s₃ absent found₃
    cases found₂ : r₂.sets.find? id with
    | none =>
        have ⟨least, brought⟩ := second.fresh id s₃ found₂ found₃
        exact ⟨Nat.le_trans first.nextSetId_le least, brought⟩
    | some s₂ =>
        have ⟨least, brought⟩ := first.fresh id s₂ absent found₂
        rcases second.kept id s₂ found₂ with ⟨s, found, name, -⟩
        rw [found₃] at found
        cases found
        exact ⟨least, name ▸ brought⟩
  filled := by
    intro id least below
    rcases Nat.lt_or_ge id r₂.nextSetId with inner | outer
    · rcases first.filled id least inner with ⟨s₂, found₂⟩
      rcases second.kept id s₂ found₂ with ⟨s₃, found₃, -⟩
      exact ⟨s₃, found₃⟩
    · exact second.filled id outer below

/-- A single write makes a record grow, and leaves its identifiers below the next one. -/
theorem Writes.grows {r r' : PageRecord} (write : p.Writes r r') (below : r.IdsBelow) :
    p.Grows r r' ∧ r'.IdsBelow := by
  cases write with
  | @rewrite id s stored concerned old new =>
      have lookup : ∀ other, (r.rewrite p.newRevId id old new).sets.find? other =
          if other = id then some (s.rewritten p.newRevId old new) else r.sets.find? other := by
        intro other
        simp [PageRecord.find?_rewrite, stored]
      refine ⟨⟨Nat.le_of_eq (PageRecord.nextSetId_rewrite ..).symm, ?_, ?_, ?_⟩,
        below.rewrite _ id old new⟩
      · intro other t found
        rw [lookup]
        split
        · rename_i same
          subst same
          rw [stored] at found
          cases found
          exact ⟨_, rfl, rfl, Nat.le_max_left _ _, Or.inr concerned⟩
        · exact ⟨t, found, rfl, Nat.le_refl _, Or.inl rfl⟩
      · intro other t absent found
        rw [lookup] at found
        split at found
        · simp_all
        · rw [absent] at found
          cases found
      · intro other least outer
        rw [PageRecord.nextSetId_rewrite] at outer
        exact absurd outer (Nat.not_lt.2 least)
  | @store s brought =>
      refine ⟨⟨Nat.le_succ _, ?_, ?_, ?_⟩, below.storeNew _⟩
      · intro id t found
        exact ⟨t, PageRecord.find?_storeNew_of_stored below found _, rfl, Nat.le_refl _,
          Or.inl rfl⟩
      · intro id t absent found
        rw [PageRecord.find?_storeNew] at found
        split at found
        · rename_i same
          cases found
          exact ⟨Nat.le_of_eq same.symm, brought⟩
        · rw [absent] at found
          cases found
      · intro id least below
        have same : id = r.nextSetId := Nat.le_antisymm (Nat.le_of_lt_succ below) least
        exact ⟨s.toStored p.newRevId, by rw [PageRecord.find?_storeNew, if_pos same]⟩

theorem grows_of_writes {r r' : PageRecord} (writes : Relation.ReflTransGen p.Writes r r')
    (below : r.IdsBelow) : p.Grows r r' ∧ r'.IdsBelow := by
  induction writes with
  | refl => exact ⟨.refl r, below⟩
  | tail _ write ih =>
      have ⟨grown, stillBelow⟩ := write.grows ih.2
      exact ⟨ih.1.trans grown, stillBelow⟩

theorem grows_afterUpdates {r : PageRecord} (below : r.IdsBelow) :
    p.Grows (p.afterDeletes r) (p.afterUpdates r) :=
  (grows_of_writes (writes_afterUpdates r) (below.without _)).1

theorem idsBelow_apply {r : PageRecord} (below : r.IdsBelow) (now : Timestamp) :
    (p.apply now r).record.IdsBelow := by
  intro id s found
  rw [sets_apply] at found
  rw [nextSetId_apply]
  exact (grows_of_writes (writes_afterUpdates r) (below.without _)).2 id s found

/-- A stored set is deleted as planned, or it keeps its identifier and name. -/
theorem apply_stored {r : PageRecord} (below : r.IdsBelow) (now : Timestamp) {id : SetId}
    {s : StoredSet} (found : r.sets.find? id = some s) :
    (id ∈ p.deletes.keys ∧ (p.apply now r).record.sets.find? id = none) ∨
      id ∉ p.deletes.keys ∧ ∃ s', (p.apply now r).record.sets.find? id = some s' ∧
        s'.name = s.name ∧ s.revId ≤ s'.revId ∧ (s' = s ∨ p.Concerns id s.name) := by
  have grown := grows_afterUpdates (p := p) below
  have rest := PageRecord.find?_without r p.deletes.keys id
  rw [sets_apply]
  by_cases deleted : id ∈ p.deletes.keys
  · left
    refine ⟨deleted, ?_⟩
    rw [if_pos deleted] at rest
    -- it cannot come back, because sets stored anew take identifiers from the next one on
    cases back : (p.afterUpdates r).sets.find? id with
    | none => rfl
    | some s' =>
        have unused : r.nextSetId ≤ id := (grown.fresh id s' rest back).1
        rw [below.find?_eq_none unused] at found
        cases found
  · right
    rw [if_neg deleted, found] at rest
    exact ⟨deleted, grown.kept id s rest⟩

/-- A set that was not stored before has taken an identifier from the next one on. -/
theorem apply_fresh {r : PageRecord} (below : r.IdsBelow) (now : Timestamp) {id : SetId}
    {s : StoredSet} (absent : r.sets.find? id = none)
    (found : (p.apply now r).record.sets.find? id = some s) :
    r.nextSetId ≤ id ∧ p.Brings s.name := by
  rw [sets_apply] at found
  refine (grows_afterUpdates below).fresh id s ?_ found
  rw [afterDeletes, PageRecord.find?_without]
  split
  · rfl
  · exact absent

end Plan

end TemplateVars
