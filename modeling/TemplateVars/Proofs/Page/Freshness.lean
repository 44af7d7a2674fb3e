import TemplateVars.Page.Json
import TemplateVars.Proofs.Page.Revision

/-!
# Fresh identifiers

A set that is stored anew takes the next identifier of its record without a
look at those in use. A record as storing leaves it has none in use from the
next one on, but a record that is read from a page file can be any: where the
next identifier is missing it is taken to be one, whatever is stored. A set
stored anew then takes the place of another. Which records are safe for a plan
is told by the identifiers that the plan uses up.
-/

namespace TemplateVars

namespace PageRecord

/-- The record once sets are written to their places in turn. -/
def placeAll (rev : RevId) (r : PageRecord) (places : List (PageRecord → Placement)) : PageRecord :=
  places.foldl (fun r place => r.place rev (place r)) r

/-- Whenever a set is stored anew, its identifier is not in use at that moment. -/
def FreshAt (rev : RevId) (r : PageRecord) : List (PageRecord → Placement) → Prop
  | [] => True
  | place :: places =>
      ((place r).over? = none → r.sets.find? r.nextSetId = none) ∧
        FreshAt rev (r.place rev (place r)) places

variable {rev : RevId} {r : PageRecord} {w : Placement}

theorem placeAll_cons (place : PageRecord → Placement) (places : List (PageRecord → Placement)) :
    r.placeAll rev (place :: places) = (r.place rev (place r)).placeAll rev places := rfl

theorem place_of_over {id : SetId} {old : VariableSet} (target : w.over? = some (id, old)) :
    r.place rev w = r.rewrite rev id old w.set := by
  simp [place, target]

theorem place_of_new (anew : w.over? = none) :
    r.place rev w = r.storeNew (w.set.toStored rev) := by
  simp [place, anew]

@[simp]
theorem nextSetId_storeNew (r : PageRecord) (s : StoredSet) :
    (r.storeNew s).nextSetId = r.nextSetId + 1 := rfl

theorem isSome_find?_rewrite (r : PageRecord) (rev : RevId) (id other : SetId)
    (old new : VariableSet) :
    ((r.rewrite rev id old new).sets.find? other).isSome = (r.sets.find? other).isSome := by
  rw [find?_rewrite]
  split
  · rename_i same
    rw [same, Option.isSome_map]
  · rfl

theorem nextSetId_le_placeAll (rev : RevId) (r : PageRecord)
    (places : List (PageRecord → Placement)) :
    r.nextSetId ≤ (r.placeAll rev places).nextSetId := by
  induction places generalizing r with
  | nil => exact Nat.le_refl _
  | cons place places ih =>
      have rest := ih (r.place rev (place r))
      rw [placeAll_cons]
      cases target : (place r).over? with
      | some e =>
          rw [place_of_over target, nextSetId_rewrite] at rest
          rwa [place_of_over target]
      | none =>
          rw [place_of_new target, nextSetId_storeNew] at rest
          rw [place_of_new target]
          exact Nat.le_of_succ_le rest

/-- All identifiers are fresh exactly if none of those that are used up was in use before. -/
theorem freshAt_iff (places : List (PageRecord → Placement)) :
    r.FreshAt rev places ↔ ∀ id, (r.sets.find? id).isSome →
      id < r.nextSetId ∨ (r.placeAll rev places).nextSetId ≤ id := by
  induction places generalizing r with
  | nil => exact iff_of_true trivial fun id _ => Nat.lt_or_ge id r.nextSetId
  | cons place places ih =>
      rw [FreshAt, ih, placeAll_cons]
      cases target : (place r).over? with
      | some e =>
          rw [place_of_over target, nextSetId_rewrite]
          simp only [isSome_find?_rewrite, reduceCtorEq, false_implies, true_and]
      | none =>
          rw [place_of_new target]
          have least := nextSetId_le_placeAll rev (r.storeNew ((place r).set.toStored rev)) places
          rw [nextSetId_storeNew] at least ⊢
          constructor
          · rintro ⟨free, rest⟩ id used
            have other : id ≠ r.nextSetId := by
              rintro rfl
              rw [free rfl] at used
              cases used
            have later := rest id (by rwa [find?_storeNew, if_neg other])
            lia
          · intro room
            refine ⟨fun _ => ?_, ?_⟩
            · rw [← Option.not_isSome_iff_eq_none]
              intro used
              have outside := room r.nextSetId used
              lia
            · intro id used
              rw [find?_storeNew] at used
              split at used
              · lia
              · have outside := room id used
                lia

/-- What is written over nowhere is kept if all identifiers are fresh. -/
theorem FreshAt.kept {places : List (PageRecord → Placement)} (fresh : r.FreshAt rev places)
    {id : SetId} {s : StoredSet} (found : r.sets.find? id = some s)
    (spared : ∀ place ∈ places, ∀ q : PageRecord, q.sets.find? id = some s →
      ∀ old, (place q).over? ≠ some (id, old)) :
    (r.placeAll rev places).sets.find? id = some s := by
  induction places generalizing r with
  | nil => exact found
  | cons place places ih =>
      rw [placeAll_cons]
      refine ih fresh.2 ?_ fun place listed => spared place (List.mem_cons_of_mem _ listed)
      cases target : (place r).over? with
      | some e =>
          have other : id ≠ e.1 := by
            rintro rfl
            exact spared place List.mem_cons_self r found e.2 target
          rw [place_of_over target, find?_rewrite, if_neg other, found]
      | none =>
          have other : id ≠ r.nextSetId := by
            rintro rfl
            rw [fresh.1 target] at found
            cases found
          rw [place_of_new target, find?_storeNew, if_neg other, found]

end PageRecord

namespace Plan

variable (p : Plan) (r : PageRecord)

theorem afterUpdates_eq_placeAll :
    p.afterUpdates r = (p.afterDeletes r).placeAll p.newRevId p.places := by
  have insert : p.afterInserts r = p.inserts.foldl
      (fun r t => r.place p.newRevId (r.placeByName t)) (p.afterDeletes r) := by
    simp only [afterInserts, PageRecord.insertSet_eq_place]
  simp only [afterUpdates, withUpdates, PageRecord.updateSet_eq_place, insert]
  rw [PageRecord.placeAll, places, List.foldl_append, List.foldl_map, List.foldl_map]

/-- Every set that a plan stores anew gets an identifier that is not in use at that moment. -/
def StoresFresh : Prop := (p.afterDeletes r).FreshAt p.newRevId p.places

/-- The stored sets that a plan neither deletes nor updates are what they were. -/
def LeavesOthers (now : Timestamp) : Prop :=
  ∀ id s, r.sets.find? id = some s → id ∉ p.deletes.keys → p.updates.contains id = false →
    (p.apply now r).record.sets.find? id = some s

variable {p r}

theorem StoresFresh.leavesOthers (fresh : p.StoresFresh r)
    (free : ∀ t ∈ p.inserts, ¬r.HasName t.name) (now : Timestamp) : p.LeavesOthers r now := by
  intro id s found kept spared
  rw [sets_apply, afterUpdates_eq_placeAll]
  refine PageRecord.FreshAt.kept fresh ?_ ?_
  · rw [afterDeletes, PageRecord.find?_without, if_neg kept, found]
  · intro place listed q there old target
    rcases List.mem_append.1 listed with insert | update
    · rcases List.mem_map.1 insert with ⟨t, planned, rfl⟩
      rcases PageRecord.over?_placeByName.1 target with ⟨u, named, -⟩
      rcases PageRecord.find?_of_findByName? named with ⟨stored, name⟩
      rw [there] at stored
      cases stored
      exact free t planned ⟨id, s, found, name⟩
    · rcases List.mem_map.1 update with ⟨e, planned, rfl⟩
      rcases PageRecord.over?_placeById.1 target with ⟨-, rfl, -⟩
      rw [SortedMap.contains, SortedMap.find?_eq_some.2 planned] at spared
      cases spared

/--
A plan whose inserts have new names stores all that it stores anew under fresh
identifiers, and leaves alone what it is not for, exactly if no set that it does
not delete has an identifier among those it uses up.
-/
theorem storesFresh_iff (free : ∀ t ∈ p.inserts, ¬r.HasName t.name) (now : Timestamp) :
    p.StoresFresh r ∧ p.LeavesOthers r now ↔
      ∀ id s, r.sets.find? id = some s → id ∉ p.deletes.keys →
        id < r.nextSetId ∨ (p.apply now r).record.nextSetId ≤ id := by
  have exact_ : p.StoresFresh r ↔ ∀ id s, r.sets.find? id = some s → id ∉ p.deletes.keys →
      id < r.nextSetId ∨ (p.apply now r).record.nextSetId ≤ id := by
    rw [StoresFresh, PageRecord.freshAt_iff, ← afterUpdates_eq_placeAll, ← nextSetId_apply p now]
    change (∀ id, _ → id < r.nextSetId ∨ _) ↔ _
    simp only [afterDeletes, PageRecord.find?_without, Option.isSome_iff_exists]
    grind
  rw [← exact_]
  exact and_iff_left_of_imp fun fresh => fresh.leavesOthers free now

/-- The text of a page file with a set, but without the next identifier. -/
def unnumberedText : String :=
  "\x7b\"page_id\":5,\"sets\":\x7b\"1\":\x7b\"name\":\"a\",\"rev_id\":1," ++
    "\"variables\":\x7b\"x\":\x7b\"value\":\"1\"\x7d\x7d\x7d\x7d\x7d"

/-- What is read from it: the next identifier is in use. -/
def unnumbered : PageRecord where
  pageId := 5
  sets := .ofList [(1, { name := "a", revId := 1, vars := .ofList [("x", .text "1")] })]

/-- A plan that was made when nothing was stored. -/
def insertB : Plan where
  pageId := 5
  newRevId := 2
  inserts := [{ name := "b", vars := .ofList [("y", .text "2")] }]

/-- The new set replaces the stored one, although it has another name. -/
theorem not_leavesOthers_unnumbered :
    let now : Timestamp := ⟨2024, 1, 1, 0, 0, 0, 0⟩
    PageRecord.read? unnumberedText = some unnumbered ∧
      (∀ t ∈ insertB.inserts, ¬unnumbered.HasName t.name) ∧
      insertB.deletes.keys = [] ∧ insertB.updates.keys = [] ∧
      ¬insertB.StoresFresh unnumbered ∧ ¬insertB.LeavesOthers unnumbered now ∧
      (insertB.apply now unnumbered).record.sets.toList.map (fun e => (e.1, e.2.name)) =
        [(1, "b")] := by
  intro now
  have lost : ¬insertB.LeavesOthers unnumbered now := by
    intro leaves
    have kept := leaves 1 { name := "a", revId := 1, vars := .ofList [("x", .text "1")] }
      (by decide) (by decide) (by decide)
    revert kept
    decide
  have free : ∀ t ∈ insertB.inserts, ¬unnumbered.HasName t.name := by
    intro t listed
    rw [← PageRecord.findByName?_eq_none]
    revert t
    decide
  exact ⟨by decide +kernel, free, by decide, by decide,
    fun fresh => lost (fresh.leavesOthers free now), lost, by decide⟩

/-- With the next identifier above the one in use, the new set is stored beside the old one. -/
theorem storesFresh_numbered :
    let now : Timestamp := ⟨2024, 1, 1, 0, 0, 0, 0⟩
    let numbered : PageRecord := { unnumbered with nextSetId := 2 }
    (∀ t ∈ insertB.inserts, ¬numbered.HasName t.name) ∧
      insertB.StoresFresh numbered ∧ insertB.LeavesOthers numbered now := by
  intro now numbered
  have free : ∀ t ∈ insertB.inserts, ¬numbered.HasName t.name := by
    intro t listed
    rw [← PageRecord.findByName?_eq_none]
    revert t
    decide
  refine ⟨free, (storesFresh_iff free now).2 ?_⟩
  intro id s found kept
  revert id s
  rw [SortedMap.forall_find?_iff]
  decide

end Plan

end TemplateVars
