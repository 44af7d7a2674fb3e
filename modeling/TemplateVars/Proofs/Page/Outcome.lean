import TemplateVars.Proofs.Page.Convergence

/-!
# What becomes of a page

A store keeps a record only for pages that have sets. Saving a plan applies it
to the record of its page, or to a new one, and forgets the page when no set is
left. After a plan that was made against the page itself, the page holds the
sets of the render, and it holds no record if there was nothing to render.
-/

namespace TemplateVars

namespace Plan

/-- What a page holds once a plan is saved, given what it held before. -/
def outcome (p : Plan) (now : Timestamp) (stored : Option PageRecord) : Option PageRecord :=
  if p.isEmpty then stored
  else
    let r := (p.apply now (stored.getD { pageId := p.pageId })).record
    if r.sets.isEmpty then none else some r

end Plan

/-- What a page can hold: nothing, or a well-formed record of its own with at least one set. -/
def PageRecord.SoundFor (page : PageId) (stored : Option PageRecord) : Prop :=
  ∀ r, stored = some r → r.WellFormed ∧ r.pageId = page ∧ ∃ id s, r.sets.find? id = some s

namespace SetCollection

/-- Whether a collection has a set. -/
def HasSets (c : SetCollection) : Prop := ∃ name s, c.sets.find? name = some s

end SetCollection

namespace Plan

theorem outcome_of_isEmpty {p : Plan} (nothing : p.isEmpty = true) (now : Timestamp)
    (stored : Option PageRecord) : p.outcome now stored = stored := by
  simp [outcome, nothing]

theorem hasSets_iff_contents (c : SetCollection) :
    c.HasSets ↔ ∃ name, c.contents.find? name ≠ none := by
  simp only [SetCollection.HasSets, SetCollection.find?_contents, ne_eq, Option.map_eq_none_iff,
    Option.ne_none_iff_exists']

/-- A loaded collection has a set exactly when the record has one. -/
theorem hasSets_toCollection_iff (r : PageRecord) :
    r.toCollection.HasSets ↔ ∃ id s, r.sets.find? id = some s := by
  constructor
  · rintro ⟨name, v, loaded⟩
    rcases r.toCollection_cases name with ⟨id, s, found, -⟩ | ⟨-, absent, -⟩
    · exact ⟨id, s, found⟩
    · rw [absent] at loaded
      cases loaded
  · rintro ⟨id, s, found⟩
    rcases r.toCollection_cases s.name with ⟨i, t, -, -, loaded, -⟩ | ⟨absent, -, -⟩
    · exact ⟨s.name, _, loaded⟩
    · exact absurd ⟨id, s, found, rfl⟩ absent

theorem hasSets_congr {c d : SetCollection} (same : c.contents = d.contents) :
    c.HasSets ↔ d.HasSets := by
  rw [hasSets_iff_contents, hasSets_iff_contents, same]

theorem not_hasSets_new (page : PageId) :
    ¬({ pageId := page } : PageRecord).toCollection.HasSets := by
  rw [hasSets_toCollection_iff]
  rintro ⟨id, s, found⟩
  simp at found

/-- A collection with a set differs from what a new record says. -/
theorem contents_new_ne {c : SetCollection} (hasSets : c.HasSets) (page : PageId) :
    ({ pageId := page } : PageRecord).toCollection.contents ≠ c.contents := by
  intro same
  exact not_hasSets_new page ((hasSets_congr same).2 hasSets)

/-- Where nothing is stored there is something to do for a render with a set. -/
theorem busy_between_none {c : SetCollection} (hasSets : c.HasSets) :
    (between none (some c)).isEmpty = false := by
  rw [Bool.eq_false_iff, ne_eq, between_none_left, isEmpty_between_iff]
  exact contents_new_ne hasSets c.pageId

/-- A record without sets counts as no record. -/
theorem record_isEmpty_iff (r : PageRecord) : r.sets.isEmpty = true ↔ ¬r.toCollection.HasSets := by
  rw [hasSets_toCollection_iff, SortedMap.isEmpty_iff]
  constructor
  · rintro absent ⟨id, s, found⟩
    rw [absent] at found
    cases found
  · intro absent id
    rw [Option.eq_none_iff_forall_ne_some]
    intro s found
    exact absent ⟨id, s, found⟩

theorem outcome_of_busy {p : Plan} (busy : p.isEmpty = false) (now : Timestamp)
    {stored : Option PageRecord} {r : PageRecord}
    (before : stored.getD { pageId := p.pageId } = r) :
    p.outcome now stored =
      if (p.apply now r).record.sets.isEmpty then none else some (p.apply now r).record := by
  subst before
  rw [outcome, if_neg (by simp [busy])]

/-- What a page holds after a plan is saved is what it held or what applying the plan leaves. -/
theorem outcome_eq_some {p : Plan} {now : Timestamp} {stored : Option PageRecord}
    {r : PageRecord} (saved : p.outcome now stored = some r) :
    stored = some r ∨
      p.isEmpty = false ∧ (p.apply now (stored.getD { pageId := p.pageId })).record = r := by
  cases busy : p.isEmpty with
  | true => exact Or.inl (by rwa [outcome_of_isEmpty busy] at saved)
  | false =>
      rw [outcome_of_busy busy now rfl] at saved
      split at saved
      · cases saved
      · exact Or.inr ⟨rfl, Option.some.inj saved⟩

theorem hasSets_outcome {p : Plan} (busy : p.isEmpty = false) {now : Timestamp}
    {stored : Option PageRecord} {r : PageRecord} (outcome : p.outcome now stored = some r) :
    ∃ i t, r.sets.find? i = some t := by
  rw [outcome_of_busy busy now rfl] at outcome
  split at outcome
  · cases outcome
  · rename_i some
    cases outcome
    simpa [SortedMap.isEmpty_iff, Option.eq_none_iff_forall_ne_some] using some

theorem pageId_outcome {p : Plan} {stored : Option PageRecord}
    (own : ∀ r, stored = some r → r.pageId = p.pageId) {now : Timestamp} {r : PageRecord}
    (left : p.outcome now stored = some r) : r.pageId = p.pageId := by
  rcases outcome_eq_some left with before | ⟨-, rfl⟩
  · exact own r before
  · rw [pageId_apply]
    cases stored with
    | none => rfl
    | some r => exact own r rfl

/--
A plan made against a page itself leaves a record that says what the render
says, and no record when the render has no set.
-/
theorem outcome_between_loaded {page : PageId} {r : PageRecord} {new : SetCollection}
    (wf : r.WellFormed) (own : r.pageId = page) (keyed : new.Keyed) (now : Timestamp)
    {stored : Option PageRecord} (before : stored.getD { pageId := new.pageId } = r)
    (differ : r.toCollection.contents ≠ new.contents) :
    (¬new.HasSets → (between (some r.toCollection) (some new)).outcome now stored = none) ∧
      (new.HasSets → ∃ r',
        (between (some r.toCollection) (some new)).outcome now stored = some r' ∧
          r'.WellFormed ∧ r'.pageId = page ∧ r'.toCollection.contents = new.contents) := by
  have busy : (between (some r.toCollection) (some new)).isEmpty = false := by
    rw [Bool.eq_false_iff, ne_eq, isEmpty_between_iff]
    exact differ
  have pageId_eq : (between (some r.toCollection) (some new)).pageId = new.pageId := by
    rw [between_of_differ r new differ]
  have ⟨wf', contents⟩ := apply_between_toCollection wf keyed now
  have isEmpty_iff := record_isEmpty_iff
    ((between (some r.toCollection) (some new)).apply now r).record
  rw [hasSets_congr contents] at isEmpty_iff
  rw [outcome_of_busy busy now (pageId_eq ▸ before)]
  constructor
  · intro noSets
    rw [if_pos (isEmpty_iff.2 noSets)]
  · intro hasSets
    have kept : ¬((between (some r.toCollection) (some new)).apply now r).record.sets.isEmpty =
        true := fun empty => isEmpty_iff.1 empty hasSets
    refine ⟨_, if_neg kept, wf', ?_, contents⟩
    rw [pageId_apply, own]

theorem hasSets_foldl {γ : Type} {p : Plan} {change : PageRecord → γ → PageRecord}
    {changes : List γ} (each : ∀ r, ∀ c ∈ changes, p.Writes r (change r c)) {r : PageRecord}
    (some : changes ≠ [] ∨ ∃ id s, r.sets.find? id = some s) :
    ∃ id s, (changes.foldl change r).sets.find? id = Option.some s := by
  induction changes generalizing r with
  | nil => exact some.resolve_left fun ne => ne rfl
  | cons c changes ih =>
      exact ih (fun r c listed => each r c (List.mem_cons_of_mem _ listed))
        (Or.inr (each r c List.mem_cons_self).hasSets)

/-- A plan with something to insert or to update leaves a record. -/
theorem outcome_isSome {p : Plan} (busy : p.isEmpty = false)
    (writes : p.inserts ≠ [] ∨ p.updates.toList ≠ []) (now : Timestamp)
    (stored : Option PageRecord) : (p.outcome now stored).isSome = true := by
  have hasSets : ∃ id s,
      (p.afterUpdates (stored.getD { pageId := p.pageId })).sets.find? id = some s := by
    refine hasSets_foldl (fun r e planned => writes_updateSet r planned) ?_
    rcases writes with inserts | updates
    · exact Or.inr (hasSets_foldl (fun r s planned => writes_insertSet r planned) (Or.inl inserts))
    · exact Or.inl updates
  rcases hasSets with ⟨id, s, found⟩
  rw [outcome_of_busy busy now rfl, if_neg]
  · rfl
  · rw [SortedMap.isEmpty_iff, sets_apply]
    intro nothing
    rw [nothing] at found
    cases found

/-- A plan for a render with a set inserts or updates something, or is empty. -/
theorem writes_between {stored : Option PageRecord} {c : SetCollection} (hasSets : c.HasSets)
    (busy : (between (stored.map (·.toCollection)) (some c)).isEmpty = false) :
    (between (stored.map (·.toCollection)) (some c)).inserts ≠ [] ∨
      (between (stored.map (·.toCollection)) (some c)).updates.toList ≠ [] := by
  -- a page without a record is planned for as one with an empty record
  obtain ⟨r, same⟩ : ∃ r : PageRecord,
      between (stored.map (·.toCollection)) (some c) = between (some r.toCollection) (some c) := by
    cases stored with
    | none => exact ⟨_, between_none_left c⟩
    | some r => exact ⟨r, rfl⟩
  rw [same] at busy ⊢
  have differ : r.toCollection.contents ≠ c.contents := by
    intro alike
    rw [(isEmpty_between_iff r c).2 alike] at busy
    cases busy
  rw [between_of_differ r c differ]
  rcases hasSets with ⟨name, s, found⟩
  rcases counterpart?_cases r name with ⟨id, old, -, -, present⟩ | ⟨absent, -⟩
  · right
    have planned := (find?_updatesBetween r c).2 ⟨name, found, present⟩
    exact List.ne_nil_of_mem (SortedMap.find?_eq_some.1 planned)
  · left
    exact List.ne_nil_of_mem ((mem_insertsBetween r c).2 ⟨name, found, absent⟩)

/-- What a render hands over for a page: nothing, or a keyed collection of it with some set. -/
def RenderedFor (page : PageId) (rendered : Option SetCollection) : Prop :=
  ∀ c, rendered = some c → c.Keyed ∧ c.HasSets ∧ c.pageId = page

theorem renderedFor_none (page : PageId) : RenderedFor page none := by
  intro c rendered
  cases rendered

/-- What a page holds after a render: nothing if nothing was rendered, else what was rendered. -/
def Shows (page : PageId) (rendered : Option SetCollection) (stored : Option PageRecord) : Prop :=
  match rendered with
  | none => stored = none
  | some c => ∃ r, stored = some r ∧ r.WellFormed ∧ r.pageId = page ∧
      r.toCollection.contents = c.contents

theorem Shows.soundFor {page : PageId} {rendered : Option SetCollection}
    {stored : Option PageRecord} (isRendered : RenderedFor page rendered)
    (shows : Shows page rendered stored) : PageRecord.SoundFor page stored := by
  intro r found
  cases rendered with
  | none =>
      rw [Shows, found] at shows
      cases shows
  | some c =>
      rcases shows with ⟨r', found', wf, own, contents⟩
      rw [found] at found'
      cases found'
      refine ⟨wf, own, ?_⟩
      rw [← hasSets_toCollection_iff, hasSets_congr contents]
      exact (isRendered c rfl).2.1

/-- A plan made against a page itself makes the page show the render. -/
theorem shows_outcome_between {page : PageId} {stored : Option PageRecord}
    (sound : PageRecord.SoundFor page stored) {rendered : Option SetCollection}
    (isRendered : RenderedFor page rendered) (now : Timestamp) :
    Shows page rendered
      ((between (stored.map (·.toCollection)) rendered).outcome now stored) := by
  cases stored with
  | none =>
      cases rendered with
      | none => rfl
      | some c =>
          rcases isRendered c rfl with ⟨keyed, hasSets, own⟩
          have differ := contents_new_ne hasSets c.pageId
          rw [Option.map_none, between_none_left]
          exact (outcome_between_loaded (PageRecord.wellFormed_new _) own keyed now rfl differ).2
            hasSets
  | some r =>
      rcases sound r rfl with ⟨wf, own, hasSets⟩
      rw [Option.map_some]
      cases rendered with
      | none =>
          have differ : r.toCollection.contents ≠
              ({ pageId := r.toCollection.pageId, revId := r.toCollection.revId } :
                SetCollection).contents := by
            intro same
            obtain ⟨name, s, found⟩ :=
              (hasSets_congr same).1 ((hasSets_toCollection_iff r).2 hasSets)
            simp at found
          rw [between_none_right]
          refine (outcome_between_loaded wf own ?_ now rfl differ).1 ?_
          · intro name s found
            simp at found
          · rintro ⟨name, s, found⟩
            simp at found
      | some c =>
          rcases isRendered c rfl with ⟨keyed, rendersSets, -⟩
          by_cases same : r.toCollection.contents = c.contents
          · rw [outcome_of_isEmpty ((isEmpty_between_iff r c).2 same)]
            exact ⟨r, rfl, wf, own, same⟩
          · exact (outcome_between_loaded wf own keyed now rfl same).2 rendersSets

end Plan

end TemplateVars
