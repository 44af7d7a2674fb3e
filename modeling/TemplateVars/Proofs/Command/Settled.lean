import TemplateVars.Proofs.Command.Diff
import TemplateVars.Proofs.Page.Filtered

/-!
# A diff settles a page

Once a diff has stored the rendered sets of a file, the page holds them under
names of storage, and it holds no record if there are none; another diff with
the same file finds nothing to do, at whatever revision. The page is loaded a
second time from what the first run wrote, and the file is read a second time
from the same disk, so that neither may have been lost on the way.

A record without sets is what an empty file says already. It stays where it is.
-/

namespace TemplateVars

namespace Command

open SetCollection

variable {s : Surroundings} {page : PageId} {file : Path} {rev : Option RevId} {json : Bool}
  {sets : RenderedSets} {stored after : Option PageRecord} {now : Timestamp} {c c' : Console}

/-- Rendered sets are not mistaken for a record: the page of a record is no set. -/
theorem read?_of_renderedSets? {text : String} (rendered : renderedSets? text = some sets) :
    PageRecord.read? text = none := by
  rcases Option.bind_eq_some_iff.1 rendered with ⟨j, parsed, entries⟩
  rw [PageRecord.read?, parsed, Option.bind_some, Option.eq_none_iff_forall_ne_some]
  intro r read
  cases j with
  | object members =>
      rw [PageRecord.ofJson?] at read
      simp only [Option.bind_eq_bind, Option.bind_eq_some_iff] at read
      rcases read with ⟨fields, known, number, given, -⟩
      rcases Option.bind_eq_some_iff.1 given with ⟨value, found, word⟩
      rcases Json.exists_mem_of_find?_knownMembers known found with ⟨literal, listed⟩
      rcases Json.exists_of_mem_entries? entries listed with ⟨vars, isMap⟩
      cases value with
      | number digits => cases isMap
      | _ => cases word
  | _ => cases entries

/-! ### What the plan of a diff makes of a page -/

/-- A page without a record is planned for as one with a new record. -/
theorem diffPlan_eq (page : PageId) (rev : Option RevId) (stored : Option PageRecord)
    (sets : RenderedSets) :
    diffPlan page rev stored sets =
      .between (some (stored.getD { pageId := page }).toCollection)
        (some (collect page (renderRevision rev (stored.map (·.toCollection))) sets)) := by
  cases stored with
  | none =>
      rw [diffPlan, Option.map_none, Plan.between_none_left, pageId_collect]
      rfl
  | some r => rfl

theorem isEmpty_diffPlan_iff :
    (diffPlan page rev stored sets).isEmpty = true ↔
      (stored.getD { pageId := page }).toCollection.contents =
        (collect page (renderRevision rev (stored.map (·.toCollection))) sets).contents := by
  rw [diffPlan_eq, Plan.isEmpty_between_iff]

/-- Collections without sets say the same. -/
theorem contents_eq_of_not_hasSets {a b : SetCollection} (noneA : ¬a.HasSets)
    (noneB : ¬b.HasSets) : a.contents = b.contents := by
  apply SortedMap.ext_find?
  intro name
  rw [Plan.find?_contents_of_not_hasSets noneA, Plan.find?_contents_of_not_hasSets noneB]

/-- A page holds what was collected: a record of its own that matches it, or nothing for nothing. -/
structure Matches (page : PageId) (sets : RenderedSets) (stored : Option PageRecord) : Prop where
  own : ∀ r, stored = some r → r.WellFormed ∧ r.pageId = page
  contents : ∀ rev, (stored.getD { pageId := page }).toCollection.contents =
    (collect page rev sets).contents

theorem Matches.isEmpty_diffPlan (matched : Matches page sets stored) (rev : Option RevId) :
    (diffPlan page rev stored sets).isEmpty = true :=
  isEmpty_diffPlan_iff.2 (matched.contents _)

/-- Saving the plan of a diff makes the page match; a file without sets writes no record. -/
theorem matches_outcome (sound : ∀ r, stored = some r → r.WellFormed ∧ r.pageId = page)
    (rev : Option RevId) (sets : RenderedSets) (now : Timestamp) :
    Matches page sets ((diffPlan page rev stored sets).outcome now stored) ∧
      ((∀ name, sets.find? name = none) →
        (diffPlan page rev stored sets).outcome now stored = none ∨
          (diffPlan page rev stored sets).outcome now stored = stored) := by
  have ⟨wf, own⟩ : (stored.getD { pageId := page }).WellFormed ∧
      (stored.getD { pageId := page }).pageId = page := by
    cases stored with
    | none => exact ⟨PageRecord.wellFormed_new page, rfl⟩
    | some r => exact sound r rfl
  by_cases same : (stored.getD { pageId := page }).toCollection.contents =
      (collect page (renderRevision rev (stored.map (·.toCollection))) sets).contents
  · rw [Plan.outcome_of_isEmpty (isEmpty_diffPlan_iff.2 same)]
    exact ⟨⟨sound, fun rev' => same.trans (contents_collect _)⟩, fun _ => Or.inr rfl⟩
  · have ⟨gone, left⟩ := Plan.outcome_between_loaded wf own keyed_collect now
      (show stored.getD _ = _ by rw [pageId_collect]) same
    rw [diffPlan_eq]
    by_cases hasSets :
        (collect page (renderRevision rev (stored.map (·.toCollection))) sets).HasSets
    · rcases left hasSets with ⟨r, outcome, wf', own', contents⟩
      rw [outcome]
      refine ⟨⟨?_, fun rev' => contents.trans (contents_collect _)⟩, fun nothing => ?_⟩
      · intro r' found
        cases found
        exact ⟨wf', own'⟩
      · rcases hasSets_collect_iff.1 hasSets with ⟨name, vars, rendered⟩
        rw [nothing] at rendered
        cases rendered
    · rw [gone hasSets]
      refine ⟨⟨nofun, fun rev' => contents_eq_of_not_hasSets (Plan.not_hasSets_new page) ?_⟩,
        fun _ => Or.inl rfl⟩
      intro later
      exact hasSets (hasSets_collect_iff.2 (hasSets_collect_iff.1 later))

theorem Matches.isSome (matched : Matches page sets stored)
    (rendered : ∃ name vars, sets.find? name = some vars) : stored.isSome = true := by
  cases stored with
  | some r => rfl
  | none =>
      have hasSets : (collect page 0 sets).HasSets := hasSets_collect_iff.2 rendered
      exact absurd (matched.contents 0) (Plan.contents_new_ne hasSets page)

/-! ### Running it again -/

theorem pageId_diffPlan (page : PageId) (rev : Option RevId) (stored : Option PageRecord)
    (sets : RenderedSets) : (diffPlan page rev stored sets).pageId = page := by
  rw [diffPlan, Plan.pageId_between_some, pageId_collect]

theorem newRevId_diffPlan_le (small : ∀ n, rev = some n → n ≤ Text.maxWord64) :
    (diffPlan page rev stored sets).newRevId ≤ Text.maxWord64 := by
  rw [diffPlan, Plan.newRevId_between_some, revId_collect, renderRevision]
  cases rev with
  | some n => exact small n rfl
  | none =>
      cases stored with
      | none => decide
      | some r => exact Nat.min_le_right ..

/-- What a page holds, and what its diffs find, once the sets of a file are stored for it. -/
structure Settled (s : Surroundings) (page : PageId) (file : Path) (sets : RenderedSets)
    (stored : Option PageRecord) (c : Console) : Prop where
  loaded : ∃ h, (s.store.loadRecord page).run.run c.host = (.ok stored, h)
  own : ∀ r, stored = some r → r.pageId = page ∧ Holds sets r
  present : (∃ name vars, sets.find? name = some vars) → stored.isSome = true
  rests : ∀ (s' : Surroundings) (rev : Option RevId) (apply json : Bool), s'.store = s.store →
    (diffPlan page rev stored sets).isEmpty = true ∧
      ∃ c', DirectoryStore.SameFiles c.host c'.host ∧
        ((diff page file rev apply json).run s').run.run c =
          (.ok (shown s' json (diffPlan page rev stored sets) none), c')

theorem Matches.settled (matched : Matches page sets stored)
    (rendered : renderedIn? c.host.disk file = some sets) {h : Host}
    (loaded : (s.store.loadRecord page).run.run c.host = (.ok stored, h)) :
    Settled s page file sets stored c where
  loaded := ⟨h, loaded⟩
  own := by
    intro r found
    have ⟨wf, own⟩ := matched.own r found
    subst found
    exact ⟨own, holds_of_contents wf (matched.contents 0)⟩
  present := matched.isSome
  rests := by
    intro s' rev apply json same
    have nothing := matched.isEmpty_diffPlan rev
    rw [← same] at loaded
    rcases run_runDiff_of_isEmpty apply json rendered loaded nothing with ⟨c', host, ran⟩
    refine ⟨nothing, c', ?_, ran⟩
    rw [host]
    exact ((s'.store.keeps_loadRecord page).of_run loaded).sameFiles

/--
If a diff that is to save what it plans ends well, the page holds the sets of the
file, and the next diff with the file, at whatever revision, plans nothing and
ends well too. No record is left for a file without sets, unless there
was one without sets before. A diff that is not to save changes no page file.
-/
theorem settled_of_run (finds : s.store.Finds page stored c.host)
    (sound : ∀ r, stored = some r → r.WellFormed ∧ r.pageId = page)
    (rooted : c.host.disk.Rooted)
    (small : page ≤ Text.maxWord64 ∧ ∀ n, rev = some n → n ≤ Text.maxWord64)
    (valid : s.now.isValid = true)
    (room : ∀ sets, renderedIn? c.host.disk file = some sets →
      ∀ r, (diffPlan page rev stored sets).outcome s.now stored = some r →
        r.nextSetId ≤ Text.maxWord64) {output : String}
    (ran : ((diff page file rev true json).run s).run.run c = (.ok output, c')) :
    (∃ sets after, renderedIn? c.host.disk file = some sets ∧ Settled s page file sets after c' ∧
      ((∀ name, sets.find? name = none) → after = none ∨ after = stored)) ∧
        ∀ rev json c, DirectoryStore.SameFiles c.host
          (((diff page file rev false json).run s).run.run c).2.host := by
  refine ⟨?_, fun rev json c => (keeps_runDiff s page file rev json c).sameFiles⟩
  rcases of_run_runDiff ran with ⟨sets, found, h, rendered, loaded, rest⟩
  cases finds.eq_of_run loaded
  have ⟨matched, unchanged⟩ := matches_outcome sound rev sets s.now
  have gains := (s.store.keeps_loadRecord page).of_run loaded
  rcases renderedIn?_eq_some.1 rendered with ⟨text, read, decoded⟩
  refine ⟨sets, _, rendered, ?_, unchanged⟩
  rcases rest with ⟨idle, host⟩ | ⟨busy, o, saved⟩
  · rw [Bool.true_and, Bool.not_eq_false'] at idle
    rw [Plan.outcome_of_isEmpty idle] at matched ⊢
    rcases DirectoryStore.rereads_of_loadRecord finds.named loaded with ⟨h', again⟩
    rw [← host] at again gains
    exact matched.settled (renderedIn?_eq_some.2 ⟨text, Disk.Gains.readText gains read, decoded⟩)
      again
  · rw [Bool.true_and, Bool.not_eq_true'] at busy
    have own := pageId_diffPlan page rev stored sets
    have kept := DirectoryStore.readText_of_save finds.named busy rooted gains read
      (read?_of_renderedSets? decoded) saved
    have storable (r : PageRecord)
        (left : (diffPlan page rev stored sets).outcome s.now stored = some r) : r.Storable :=
      Plan.storable_outcome (fun r there => finds.storable loaded there) (own.trans_le small.1)
        (newRevId_diffPlan_le small.2) valid left (room sets rendered r left)
    rcases DirectoryStore.rereads_of_save finds.named busy
      (fun d other later there => finds.eq_of_gains loaded later (own ▸ there)) storable saved with
      ⟨h', again⟩
    rw [own] at again
    exact matched.settled (renderedIn?_eq_some.2 ⟨text, kept, decoded⟩) again

/-- A disk with a file of rendered sets. -/
def desk (rendered : String) : Disk :=
  (Disk.empty ["home"]).putFile ["home", "sets.json"] rendered.toUTF8

def atDesk : Surroundings where
  config := { store := { path := "store" } }
  colored := false
  verbose := false
  now := ⟨2024, 1, 1, 0, 0, 0, 0⟩

/-- A set with a variable and one without. -/
def setsAtDesk : RenderedSets := .ofList [("a", .ofList [("x", .text "1")]), ("b", ∅)]

/-- The store is in a directory that is still to be made. -/
theorem settled_atDesk :
    let text := (jsonOfMap (jsonOfMap Variable.toJson) setsAtDesk).write .compact
    let c : Console := { host := { disk := desk text } }
    let diffed := ((diff 5 ⟨["sets.json"]⟩ none true false).run atDesk).run.run c
    diffed.1.toOption.isSome = true ∧
      ∃ sets after, renderedIn? c.host.disk ⟨["sets.json"]⟩ = some sets ∧
        Settled atDesk 5 ⟨["sets.json"]⟩ sets after diffed.2 := by
  intro text c diffed
  have ended : diffed.1.toOption.isSome = true := by
    decide +kernel
  have next : ((renderedIn? c.host.disk ⟨["sets.json"]⟩).bind fun sets =>
      (diffPlan 5 none none sets).outcome atDesk.now none).map (·.nextSetId) = some 3 := by
    decide +kernel
  have apart : ∀ e ∈ c.host.disk.entries.toList,
      e.1.getLast? = some (DirectoryStore.fileName 5) → e.2 = .directory := by
    decide +kernel
  have finds : atDesk.store.Finds 5 none c.host :=
    DirectoryStore.finds_of_apart (by decide) (by decide +kernel) fun place e found =>
      apart (place, e) (SortedMap.find?_eq_some.1 found)
  have small : 5 ≤ Text.maxWord64 ∧ ∀ n, (none : Option RevId) = some n → n ≤ Text.maxWord64 :=
    ⟨by decide, nofun⟩
  have room : ∀ sets, renderedIn? c.host.disk ⟨["sets.json"]⟩ = some sets →
      ∀ r, (diffPlan 5 none none sets).outcome atDesk.now none = some r →
        r.nextSetId ≤ Text.maxWord64 := by
    intro sets rendered r left
    rw [rendered, Option.bind_some, left, Option.map_some, Option.some.injEq] at next
    rw [next]
    decide
  rcases Action.exists_eq_ok ended with ⟨output, ran⟩
  rcases (settled_of_run finds nofun (by decide +kernel) small (by decide) room ran).1 with
    ⟨sets, after, rendered, settled, -⟩
  exact ⟨ended, sets, after, rendered, settled⟩

/-- A record without sets is left where it is, since there is nothing to do for an empty file. -/
theorem record_left_for_empty_file :
    let d : Disk := (((desk "\x7b\x7d").put ["home", "store"] .directory).put
      ["home", "store", "pages"] .directory).putFile ["home", "store", "pages", "5.json"]
        ("\x7b\"page_id\":5\x7d").toUTF8
    let c : Console := { host := { disk := d } }
    let diffed := ((diff 5 ⟨["sets.json"]⟩ none true false).run atDesk).run.run c
    ((atDesk.store.loadRecord 5).run.run c.host).1 = .ok (some { pageId := 5 }) ∧
      ({ pageId := 5 } : PageRecord).WellFormed ∧ renderedIn? d ⟨["sets.json"]⟩ = some ∅ ∧
        diffed.1.toOption.isSome = true ∧
        ((atDesk.store.loadRecord 5).run.run diffed.2.host).1 = .ok (some { pageId := 5 }) := by
  decide +kernel

end Command

end TemplateVars
