import TemplateVars.Page.Json
import TemplateVars.Proofs.Page.Outcome
import TemplateVars.Proofs.Saved.Json
import TemplateVars.Proofs.Timestamp

/-!
# Page records are read back

A page record whose numbers fit 64 bits and whose time of writing exists is
read back from the text of its page file.
-/

namespace TemplateVars

namespace StoredSet

theorem written_toJson (s : StoredSet) : s.toJson.Written := by
  apply Json.written_ofMembers
  simp only [List.mem_cons, List.not_mem_nil, or_false]
  rintro m (rfl | rfl | rfl)
  · exact .string s.name
  · exact .number s.revId
  · exact Json.written_jsonOfMap Variable.written_toJson s.vars

theorem ofJson?_toJson {s : StoredSet} (small : s.revId ≤ Text.maxWord64) :
    ofJson? s.toJson = some s := by
  rcases Json.exists_fields ["name", "rev_id", "variables"]
    [("name", .ofString s.name), ("rev_id", .ofNat s.revId),
      ("variables", jsonOfMap Variable.toJson s.vars)] (by simp) (by simp)
    with ⟨fields, read, found⟩
  simp [ofJson?, toJson, read, Json.required, Json.optional, found, SortedMap.lookup_cons,
    Json.text?_ofString, Json.word64?_ofNat small, Variable.mapOfJson?_jsonOfMap]

end StoredSet

namespace PageRecord

/-- A record whose numbers fit 64 bits and whose time of writing exists. -/
structure Storable (r : PageRecord) : Prop where
  pageId_le : r.pageId ≤ Text.maxWord64
  nextSetId_le : r.nextSetId ≤ Text.maxWord64
  sets_le : ∀ id s, r.sets.find? id = some s → id ≤ Text.maxWord64 ∧ s.revId ≤ Text.maxWord64
  valid : ∀ t, r.updatedAt = some t → t.isValid = true

theorem written_toJson (r : PageRecord) : r.toJson.Written := by
  apply Json.written_ofMembers
  simp only [List.mem_cons, List.not_mem_nil, or_false]
  rintro m (rfl | rfl | rfl | rfl)
  · exact .number r.pageId
  · apply Json.written_ofMembers
    simp only [List.mem_map]
    rintro m ⟨e, listed, rfl⟩
    exact e.2.written_toJson
  · exact .number r.nextSetId
  · cases r.updatedAt with
    | none => exact .null
    | some t => exact .string t.stored

theorem ofJson?_toJson {r : PageRecord} (storable : r.Storable) : ofJson? r.toJson = some r := by
  have sets : Json.entries? Json.word64OfDigits? StoredSet.ofJson?
      (.ofMembers (r.sets.toList.map fun e => (toString e.1, e.2.toJson))) = some r.sets := by
    rw [Json.ofMembers, List.map_map]
    refine Json.entries?_object (fun id => Json.Literal.encode (toString id)) StoredSet.toJson ?_ ?_
    · intro id s found
      rw [Json.encode_toString, Json.word64OfDigits?_toDigits (storable.sets_le id s found).1]
    · intro id s found
      exact StoredSet.ofJson?_toJson (storable.sets_le id s found).2
  have time : Json.nullable? Timestamp.ofJson? (.ofOption Timestamp.toJson r.updatedAt) =
      some r.updatedAt := by
    cases written : r.updatedAt with
    | none => rfl
    | some t =>
        have read : Timestamp.ofJson? t.toJson = some t := by
          rw [Timestamp.toJson, Timestamp.ofJson?, Json.text?_ofString, Option.bind_some,
            Timestamp.read?_stored (storable.valid t written)]
        rw [Json.ofOption, Json.nullable?, read]
        · rfl
        · intro unwritten
          cases unwritten
  rcases Json.exists_fields ["page_id", "sets", "next_set_id", "updated_at"]
    [("page_id", .ofNat r.pageId),
      ("sets", .ofMembers (r.sets.toList.map fun e => (toString e.1, e.2.toJson))),
      ("next_set_id", .ofNat r.nextSetId),
      ("updated_at", .ofOption Timestamp.toJson r.updatedAt)]
    (by simp) (by simp) with ⟨fields, read, found⟩
  rw [ofJson?, toJson, read]
  simp only [Json.required, Json.optional, found, SortedMap.lookup_cons, reduceIte,
    String.reduceEq, Option.bind_eq_bind, Option.bind_some, Option.pure_def, sets, time,
    Json.word64?_ofNat storable.pageId_le, Json.word64?_ofNat storable.nextSetId_le]

/-- A record is read back from the text of its page file. -/
theorem read?_write {r : PageRecord} (storable : r.Storable) : read? r.write = some r := by
  rw [read?, write, r.written_toJson.read?_write, Option.bind_some, ofJson?_toJson storable]

/-- What is read from a page file can be stored again. -/
theorem storable_of_ofJson? {j : Json} {r : PageRecord} (given : ofJson? j = some r) :
    r.Storable := by
  simp only [ofJson?, Option.bind_eq_bind, Option.bind_eq_some_iff, Option.pure_def,
    Option.some.injEq] at given
  rcases given with ⟨fields, -, pageId, page, sets, stored, next, number, time, written, rfl⟩
  refine ⟨?_, ?_, ?_, ?_⟩
  · rcases Json.exists_of_required page with ⟨j, own⟩
    exact Json.word64?_le own
  · rcases Json.eq_or_exists_of_optional number with rfl | ⟨j, own⟩
    · have small : 1 ≤ Text.maxWord64 := by decide
      exact small
    · exact Json.word64?_le own
  · intro id s found
    rcases Json.eq_or_exists_of_optional stored with rfl | ⟨j, entries⟩
    · cases found
    · rcases Json.exists_of_entries? entries found with ⟨⟨literal, key⟩, value, set⟩
      simp only [StoredSet.ofJson?, Option.bind_eq_bind, Option.bind_eq_some_iff, Option.pure_def,
        Option.some.injEq] at set
      rcases set with ⟨fields, -, name, -, revId, revision, vars, -, rfl⟩
      rcases Json.exists_of_required revision with ⟨j, own⟩
      exact ⟨Json.word64OfDigits?_le key, Json.word64?_le own⟩
  · rintro t rfl
    rcases Json.eq_or_exists_of_optional written with missing | ⟨j, given⟩
    · cases missing
    · rcases Option.bind_eq_some_iff.1 (Json.of_nullable? given) with ⟨text, -, instant⟩
      exact Timestamp.isValid_of_read? instant

theorem storable_new {page : PageId} (small : page ≤ Text.maxWord64) :
    Storable { pageId := page } where
  pageId_le := small
  nextSetId_le := by
    have small : 1 ≤ Text.maxWord64 := by decide
    exact small
  sets_le := nofun
  valid := nofun

end PageRecord

/-- Whatever is saved is read back from its text as it was. -/
theorem restores_saved :
    (∀ v : Variable, Json.Restores Variable.toJson Variable.ofJson? v) ∧
      (∀ s : VariableSet, s.NumbersFit → Json.Restores VariableSet.toJson VariableSet.ofJson? s) ∧
      (∀ c : SetCollection, c.NumbersFit →
        Json.Restores SetCollection.toJson SetCollection.ofJson? c) ∧
      ∀ r : PageRecord, r.Storable → Json.Restores PageRecord.toJson PageRecord.ofJson? r := by
  refine ⟨?_, ?_, ?_, ?_⟩
  · exact fun v => Json.restores_of_decoded v.written_toJson v.ofJson?_toJson
  · exact fun s fits => Json.restores_of_decoded s.written_toJson (VariableSet.ofJson?_toJson fits)
  · exact fun c fits =>
      Json.restores_of_decoded c.written_toJson (SetCollection.ofJson?_toJson fits)
  · exact fun r storable =>
      Json.restores_of_decoded r.written_toJson (PageRecord.ofJson?_toJson storable)

/-- Two sets, one of them stored, with characters that have to be escaped and one that need not. -/
def awkwardSets : SetCollection where
  pageId := Text.maxWord64
  revId := 0
  sets := .ofList [
    ("", { name := "", vars := ∅ }),
    ("\"\\\n", { name := "\"\\\n", vars := .ofList [("\x00", .needsParse "\x1f\u2028😀")],
                  setId := some Text.maxWord64 })]
  setIds := .ofList [("\"\\\n", Text.maxWord64)]

/-- A record of the greatest numbers, written in the last instant of a leap year. -/
def awkwardRecord : PageRecord where
  pageId := Text.maxWord64
  sets := .ofList [(Text.maxWord64,
    { name := "\t😀", revId := Text.maxWord64, vars := .ofList [("\x7f", .text "/")] })]
  nextSetId := Text.maxWord64
  updatedAt := some ⟨0, 12, 31, 23, 59, 59, 999999999⟩

theorem restores_awkward :
    awkwardSets.NumbersFit ∧ awkwardRecord.Storable ∧
      Json.Restores SetCollection.toJson SetCollection.ofJson? awkwardSets ∧
      Json.Restores PageRecord.toJson PageRecord.ofJson? awkwardRecord := by
  have fits : awkwardSets.NumbersFit := by
    refine ⟨Nat.le_refl _, Nat.zero_le _, ?_, ?_⟩
    · rw [SortedMap.forall_find?_iff]
      decide
    · rw [SortedMap.forall_find?_iff]
      decide
  have storable : awkwardRecord.Storable := by
    refine ⟨Nat.le_refl _, Nat.le_refl _, ?_, ?_⟩
    · rw [SortedMap.forall_find?_iff]
      decide
    · rintro t ⟨⟩
      rfl
  exact ⟨fits, storable, restores_saved.2.2.1 _ fits, restores_saved.2.2.2 _ storable⟩

namespace Plan

variable {p : Plan}

theorem Writes.nextSetId_le {r r' : PageRecord} (write : p.Writes r r') :
    r.nextSetId ≤ r'.nextSetId := by
  cases write with
  | rewrite => exact Nat.le_of_eq (PageRecord.nextSetId_rewrite ..).symm
  | store => exact Nat.le_succ _

/-- The numbers of the stored sets stay below a bound that no identifier given out exceeds. -/
theorem le_of_writes {n : Nat} {r r' : PageRecord} (writes : Relation.ReflTransGen p.Writes r r')
    (small : p.newRevId ≤ n) (fits : r'.nextSetId ≤ n)
    (before : ∀ id s, r.sets.find? id = some s → id ≤ n ∧ s.revId ≤ n) :
    ∀ id s, r'.sets.find? id = some s → id ≤ n ∧ s.revId ≤ n := by
  induction writes with
  | refl => exact before
  | tail _ write ih =>
      have ih := ih (Nat.le_trans write.nextSetId_le fits)
      intro id s found
      cases write with
      | @rewrite i t stored _ old new =>
          rw [PageRecord.find?_rewrite, stored] at found
          split at found
          · rename_i here
            cases found
            have ⟨number, revision⟩ := ih i t stored
            exact ⟨here ▸ number, Nat.max_le.2 ⟨revision, small⟩⟩
          · exact ih id s found
      | @store t =>
          rw [PageRecord.find?_storeNew] at found
          split at found
          · rename_i here
            cases found
            rw [here]
            exact ⟨Nat.le_of_succ_le fits, small⟩
          · exact ih id s found

/-- A plan leaves a record that can be stored if its numbers fit and those of the record do. -/
theorem storable_apply {r : PageRecord} (storable : r.Storable) (busy : p.isEmpty = false)
    (small : p.newRevId ≤ Text.maxWord64) {now : Timestamp} (valid : now.isValid = true)
    (fits : (p.apply now r).record.nextSetId ≤ Text.maxWord64) :
    (p.apply now r).record.Storable where
  pageId_le := by
    rw [pageId_apply]
    exact storable.pageId_le
  nextSetId_le := fits
  sets_le := by
    intro id s found
    rw [nextSetId_apply] at fits
    rw [sets_apply] at found
    refine le_of_writes (writes_afterUpdates r) small fits ?_ id s found
    intro id s stored
    rw [afterDeletes, PageRecord.find?_without] at stored
    split at stored
    · cases stored
    · exact storable.sets_le id s stored
  valid := by
    intro t written
    rw [record_apply, busy] at written
    cases written
    exact valid

/-- The record that a plan leaves can be stored if its numbers fit. -/
theorem storable_outcome {now : Timestamp} {stored : Option PageRecord}
    (storable : ∀ r, stored = some r → r.Storable) (page : p.pageId ≤ Text.maxWord64)
    (revision : p.newRevId ≤ Text.maxWord64) (valid : now.isValid = true) {r : PageRecord}
    (outcome : p.outcome now stored = some r) (next : r.nextSetId ≤ Text.maxWord64) :
    r.Storable := by
  rcases outcome_eq_some outcome with before | ⟨busy, rfl⟩
  · exact storable r before
  · refine storable_apply ?_ busy revision valid next
    cases stored with
    | none => exact PageRecord.storable_new page
    | some r => exact storable r rfl

end Plan

end TemplateVars
