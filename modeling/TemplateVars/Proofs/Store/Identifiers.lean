import Mathlib.Data.List.Induction
import TemplateVars.Proofs.Page.Stale
import TemplateVars.Proofs.Store.Memory

/-!
# Identifiers over the life of a store

Plans are saved and pages deleted in any order. While a page has a record, its
identifiers are given in ascending order and never twice. With its record a
page forgets which identifiers it gave, and a later record starts over. Hence
identifiers keep their names over a run exactly if each life of the page gives
its names in an order that continues, or is continued by, that of each other
life; and as long as they do, stale plans do no more than they were made for.
-/

namespace TemplateVars

namespace PageRecord

/-- The names of the sets stored anew since an identifier was the next one. -/
def namesFrom (r : PageRecord) (first : SetId) : List String :=
  (List.range' first (r.nextSetId - first)).map r.nameOf

theorem namesFrom_nextSetId (r : PageRecord) : r.namesFrom r.nextSetId = [] := by
  simp [namesFrom]

theorem length_namesFrom (r : PageRecord) (first : SetId) :
    (r.namesFrom first).length = r.nextSetId - first := by
  simp [namesFrom]

theorem getElem?_namesFrom {r : PageRecord} {first id : SetId} (least : first ≤ id)
    (below : id < r.nextSetId) : (r.namesFrom first)[id - first]? = some (r.nameOf id) := by
  have inside : id - first < r.nextSetId - first := Nat.sub_lt_sub_right least below
  rw [namesFrom, List.getElem?_map, List.getElem?_range' inside, Option.map_some, Nat.one_mul,
    Nat.add_sub_cancel' least]

/-- The identifiers given so far stand for some names, in the order in which they were given. -/
structure Named (names : List String) (r : PageRecord) : Prop where
  nextSetId_eq : r.nextSetId = names.length + 1
  named : ∀ id s, r.sets.find? id = some s → 0 < id ∧ names[id - 1]? = some s.name

theorem named_new (page : PageId) : Named [] { pageId := page } := ⟨rfl, nofun⟩

theorem Named.idsBelow {names : List String} {r : PageRecord} (named : Named names r) :
    r.IdsBelow := by
  intro id s found
  rcases named.named id s found with ⟨positive, listed⟩
  rcases List.getElem?_eq_some_iff.1 listed with ⟨inside, -⟩
  rw [named.nextSetId_eq]
  exact Nat.lt_succ_of_le (Nat.le_of_pred_lt inside)

theorem exists_of_given {r : PageRecord} (below : r.IdsBelow) (p : Plan) (now : Timestamp)
    {id : SetId} (least : r.nextSetId ≤ id) (inside : id < (p.apply now r).record.nextSetId) :
    ∃ s, (p.apply now r).record.sets.find? id = some s := by
  rw [Plan.nextSetId_apply] at inside
  rw [Plan.sets_apply]
  exact (Plan.grows_afterUpdates below).filled id least inside

/-- Applying a plan goes on with the names of the sets that it stores anew. -/
theorem Named.apply {names : List String} {r : PageRecord} (named : Named names r) (p : Plan)
    (now : Timestamp) :
    Named (names ++ (p.apply now r).record.namesFrom r.nextSetId) (p.apply now r).record := by
  set r' := (p.apply now r).record with applied
  have least : r.nextSetId ≤ r'.nextSetId := by
    rw [applied, Plan.nextSetId_apply]
    exact (Plan.grows_afterUpdates named.idsBelow).nextSetId_le
  constructor
  · rw [List.length_append, length_namesFrom]
    have start := named.nextSetId_eq
    lia
  · intro id s found
    -- a set that was stored keeps its name, and one stored anew comes behind the names so far
    cases before : r.sets.find? id with
    | some t =>
        rcases named.named id t before with ⟨positive, listed⟩
        have kept : s.name = t.name := by
          rcases Plan.apply_stored named.idsBelow now before with
            ⟨-, gone⟩ | ⟨-, s', there, same, -⟩
          · rw [gone] at found
            cases found
          · rw [found] at there
            cases there
            exact same
        rcases List.getElem?_eq_some_iff.1 listed with ⟨inside, -⟩
        exact ⟨positive, by rw [List.getElem?_append_left inside, listed, kept]⟩
    | none =>
        rcases Plan.apply_fresh named.idsBelow now before found with ⟨fresh, -⟩
        have inside : id < r'.nextSetId := Plan.idsBelow_apply named.idsBelow now id s found
        have start := named.nextSetId_eq
        refine ⟨by lia, ?_⟩
        rw [List.getElem?_append_right (by lia)]
        have index : id - 1 - names.length = id - r.nextSetId := by lia
        rw [index, getElem?_namesFrom fresh inside, nameOf_of_stored found]

/-- The names that a plan goes on with are those of sets under the identifiers that follow. -/
theorem Named.exists_of_fresh {names : List String} {r : PageRecord} (named : Named names r)
    {p : Plan} {now : Timestamp} {i : Nat} {name : String}
    (fresh : ((p.apply now r).record.namesFrom r.nextSetId)[i]? = some name) :
    ∃ s, (p.apply now r).record.sets.find? (names.length + 1 + i) = some s ∧ s.name = name := by
  rcases List.getElem?_eq_some_iff.1 fresh with ⟨inside, -⟩
  rw [length_namesFrom] at inside
  have least : r.nextSetId ≤ r.nextSetId + i := Nat.le_add_right ..
  have below : r.nextSetId + i < (p.apply now r).record.nextSetId := by lia
  rcases exists_of_given named.idsBelow p now least below with ⟨s, found⟩
  have listed := getElem?_namesFrom least below
  rw [Nat.add_sub_cancel_left, fresh, nameOf_of_stored found] at listed
  rw [← named.nextSetId_eq]
  exact ⟨s, found, (Option.some.inj listed).symm⟩

end PageRecord

/-- Something that happens to a store. -/
inductive StoreEvent where
  /-- A plan is saved. -/
  | save (p : Plan) (now : Timestamp)
  /-- Everything stored for a page is dropped. -/
  | deleteAll (page : PageId)

namespace MemoryStore

/-- The set of a page under an identifier. -/
def set? (m : MemoryStore) (page : PageId) (id : SetId) : Option StoredSet :=
  (m.recordOf page).sets.find? id

/-- The store after an event; its operations do not fail. -/
def after (m : MemoryStore) : StoreEvent → MemoryStore
  | .save p now => ((gateway.savePlan p now).run.run m).2
  | .deleteAll page => ((gateway.deleteAll page).run.run m).2

/-- An event drops the record of a page, leaves it alone or applies a plan to it. -/
theorem record?_after (m : MemoryStore) (event : StoreEvent) (page : PageId) :
    (m.after event).record? page = none ∨
      (m.after event).record? page = m.record? page ∨
      ∃ (p : Plan) (now : Timestamp), (m.after event).record? page =
        some (p.apply now (m.recordOf page)).record := by
  cases event with
  | save p now =>
      rw [after, run_savePlan, record?_save]
      split
      · rename_i own
        subst own
        cases saved : p.outcome now (m.record? p.pageId) with
        | none => exact Or.inl rfl
        | some r =>
            rcases Plan.outcome_eq_some saved with same | ⟨-, rfl⟩
            · exact Or.inr (Or.inl same.symm)
            · exact Or.inr (Or.inr ⟨p, now, rfl⟩)
      · exact Or.inr (Or.inl rfl)
  | deleteAll other =>
      rw [after, run_deleteAll, record?_deleteAll]
      split
      · exact Or.inl rfl
      · exact Or.inr (Or.inl rfl)

/-- What saving a plan for a page leaves of the sets of the page. -/
theorem set?_save {p : Plan} {page : PageId} (busy : p.isEmpty = false) (own : p.pageId = page)
    (m : MemoryStore) (now : Timestamp) (id : SetId) :
    (m.save p now).2.set? page id = (p.apply now (m.recordOf page)).record.sets.find? id := by
  subst own
  have saved := m.record?_save p now p.pageId
  rw [if_pos rfl, Plan.outcome_of_busy busy now rfl] at saved
  split at saved
  · rename_i empty
    rw [set?, recordOf_eq_of_none saved]
    exact (SortedMap.isEmpty_iff.1 empty id).symm
  · rw [set?, recordOf_eq_of_some saved]
    rfl

end MemoryStore

/-- A store in memory with the names that a page has given to identifiers, life by life. -/
structure StoreHistory where
  store : MemoryStore := {}
  /-- The names given since the page last had no record, from the first identifier on. -/
  names : List String := []
  /-- The names given in earlier lives of the page. -/
  past : List (List String) := []

namespace StoreHistory

/-- The history after an event. -/
def step (page : PageId) (h : StoreHistory) (event : StoreEvent) : StoreHistory :=
  match (h.store.after event).record? page with
  | none => { store := h.store.after event, names := [], past := h.names :: h.past }
  | some r =>
      { store := h.store.after event
        names := h.names ++ r.namesFrom (h.store.recordOf page).nextSetId
        past := h.past }

/-- The history of events in their order, from an empty store. -/
def run (page : PageId) (events : List StoreEvent) : StoreHistory := events.foldl (step page) {}

/-- The names given in each life of the page. -/
def lives (h : StoreHistory) : List (List String) := h.names :: h.past

variable {page : PageId} {h : StoreHistory}

theorem store_step (event : StoreEvent) : (h.step page event).store = h.store.after event := by
  unfold step
  split <;> rfl

/-- The names of the present life are those of the record, by identifiers. -/
def Recorded (page : PageId) (h : StoreHistory) : Prop :=
  PageRecord.Named h.names (h.store.recordOf page)

/--
What an event does to the lives of a page: the present one ends, or it goes on
with the names of the sets stored under the identifiers that follow.
-/
theorem Recorded.step_cases (recorded : h.Recorded page) (event : StoreEvent) :
    (h.step page event).Recorded page ∧
      ((h.step page event).lives = [] :: h.lives ∨
        ∃ fresh, (h.step page event).lives = (h.names ++ fresh) :: h.past ∧
          ∀ i name, fresh[i]? = some name → ∃ s,
            (h.step page event).store.set? page (h.names.length + 1 + i) = some s ∧
              s.name = name) := by
  unfold Recorded MemoryStore.set? step lives
  split
  · rename_i gone
    rw [MemoryStore.recordOf_eq_of_none gone]
    exact ⟨PageRecord.named_new page, Or.inl rfl⟩
  · rename_i r there
    simp only
    rw [MemoryStore.recordOf_eq_of_some there]
    rcases h.store.record?_after event page with gone | same | ⟨p, now, applied⟩
    · rw [there] at gone
      cases gone
    · rw [there] at same
      rw [MemoryStore.recordOf_eq_of_some same.symm, PageRecord.namesFrom_nextSetId,
        List.append_nil]
      refine ⟨?_, Or.inr ⟨[], by rw [List.append_nil], nofun⟩⟩
      rwa [Recorded, MemoryStore.recordOf_eq_of_some same.symm] at recorded
    · rw [there] at applied
      cases applied
      exact ⟨recorded.apply p now, Or.inr ⟨_, rfl, fun i name => recorded.exists_of_fresh⟩⟩

theorem run_append (page : PageId) (events : List StoreEvent) (event : StoreEvent) :
    run page (events ++ [event]) = (run page events).step page event :=
  List.foldl_concat ..

theorem recorded_run (page : PageId) (events : List StoreEvent) :
    (run page events).Recorded page := by
  induction events using List.reverseRecOn with
  | nil => exact PageRecord.named_new page
  | append_singleton events event ih =>
      rw [run_append]
      exact (ih.step_cases event).1

/-- No life of the page is forgotten; the present one may go on. -/
theorem exists_life_of_prefix {done later : List StoreEvent} (started : done <+: later)
    {life : List String} (lived : life ∈ (run page done).lives) :
    ∃ life' ∈ (run page later).lives, life <+: life' := by
  rcases started with ⟨rest, rfl⟩
  -- past lives stay listed as they are, so only the present one needs a look
  induction rest using List.reverseRecOn with
  | nil => exact ⟨life, by rwa [List.append_nil], List.prefix_refl life⟩
  | append_singleton rest event ih =>
      rcases ih with ⟨middle, lived', continues⟩
      rw [← List.append_assoc, run_append]
      rcases ((recorded_run page (done ++ rest)).step_cases event).2 with ended | ⟨fresh, went, -⟩
      · rw [ended]
        exact ⟨middle, List.mem_cons_of_mem _ lived', continues⟩
      · rw [went]
        rcases List.mem_cons.1 lived' with rfl | lived'
        · exact ⟨_, List.mem_cons_self, continues.trans (List.prefix_append _ fresh)⟩
        · exact ⟨middle, List.mem_cons_of_mem _ lived', continues⟩

/-- Each name of a life has been that of a set under its identifier. -/
theorem exists_set_of_life {events : List StoreEvent} {life : List String}
    (lived : life ∈ (run page events).lives) {i : Nat} {name : String}
    (listed : life[i]? = some name) :
    ∃ done, done <+: events ∧
      ∃ s, (run page done).store.set? page (i + 1) = some s ∧ s.name = name := by
  induction events using List.reverseRecOn generalizing life with
  | nil =>
      rw [List.mem_singleton.1 lived] at listed
      cases listed
  | append_singleton events event ih =>
      have earlier {life : List String} (lived : life ∈ (run page events).lives)
          (listed : life[i]? = some name) :
          ∃ done, done <+: events ++ [event] ∧
            ∃ s, (run page done).store.set? page (i + 1) = some s ∧ s.name = name := by
        rcases ih lived listed with ⟨done, started, found⟩
        exact ⟨done, started.trans (List.prefix_append _ _), found⟩
      rw [run_append] at lived
      rcases ((recorded_run page events).step_cases event).2 with ended | ⟨fresh, went, given⟩
      · rw [ended] at lived
        rcases List.mem_cons.1 lived with rfl | lived
        · cases listed
        · exact earlier lived listed
      · rw [went] at lived
        rcases List.mem_cons.1 lived with rfl | lived
        · -- what this very event adds to the life is stored right after it
          rcases Nat.lt_or_ge i (run page events).names.length with old | new
          · rw [List.getElem?_append_left old] at listed
            exact earlier List.mem_cons_self listed
          · rw [List.getElem?_append_right new] at listed
            rcases given _ name listed with ⟨s, found, named⟩
            refine ⟨_, List.prefix_refl _, s, ?_, named⟩
            have index : (run page events).names.length + 1 +
                (i - (run page events).names.length) = i + 1 := by lia
            rwa [index, ← run_append] at found
        · exact earlier (List.mem_cons_of_mem _ lived) listed

/-- An identifier that has stood for a set of some name never stands for one of another name. -/
def KeepsNames (page : PageId) (events : List StoreEvent) : Prop :=
  ∀ done later, done <+: events → later <+: events → ∀ id s t,
    (run page done).store.set? page id = some s →
    (run page later).store.set? page id = some t → s.name = t.name

/-- Of two lives of the page one gives the names of the other, and possibly more. -/
def Comparable (life life' : List String) : Prop := life <+: life' ∨ life' <+: life

theorem comparable_iff {life life' : List String} :
    Comparable life life' ↔
      ∀ (i : Nat) (a b : String), life[i]? = some a → life'[i]? = some b → a = b := by
  constructor
  · rintro (⟨rest, rfl⟩ | ⟨rest, rfl⟩) i a b first second
    · rcases List.getElem?_eq_some_iff.1 first with ⟨inside, -⟩
      rw [List.getElem?_append_left inside, first] at second
      exact Option.some.inj second
    · rcases List.getElem?_eq_some_iff.1 second with ⟨inside, -⟩
      rw [List.getElem?_append_left inside, second] at first
      exact (Option.some.inj first).symm
  · intro agree
    induction life generalizing life' with
    | nil => exact Or.inl (List.nil_prefix)
    | cons a life ih =>
        cases life' with
        | nil => exact Or.inr (List.nil_prefix)
        | cons b life' =>
            have head : a = b := agree 0 a b rfl rfl
            subst head
            rcases ih (fun i c d first second => agree (i + 1) c d first second) with
              before | after
            · exact Or.inl (List.prefix_cons_inj a |>.2 before)
            · exact Or.inr (List.prefix_cons_inj a |>.2 after)

/-- What is stored under an identifier is in the names of some life of the whole run. -/
theorem exists_life_of_set {done events : List StoreEvent} (started : done <+: events)
    {id : SetId} {s : StoredSet} (found : (run page done).store.set? page id = some s) :
    ∃ life ∈ (run page events).lives, life[id - 1]? = some s.name := by
  rcases (recorded_run page done).named id s found with ⟨-, listed⟩
  rcases exists_life_of_prefix started List.mem_cons_self with ⟨life, lived, rest, rfl⟩
  rcases List.getElem?_eq_some_iff.1 listed with ⟨inside, -⟩
  exact ⟨_, lived, by rw [List.getElem?_append_left inside, listed]⟩

/-! ### Stale plans -/

theorem pageId_recordOf_run (page : PageId) (events : List StoreEvent) :
    ((run page events).store.recordOf page).pageId = page := by
  induction events using List.reverseRecOn with
  | nil => rfl
  | append_singleton events event ih =>
      rw [run_append, store_step]
      rcases (run page events).store.record?_after event page with gone | same | ⟨p, now, applied⟩
      · rw [MemoryStore.recordOf_eq_of_none gone]
      · rw [MemoryStore.recordOf, same]
        exact ih
      · rw [MemoryStore.recordOf_eq_of_some applied, Plan.pageId_apply, ih]

/-- The plan from what a page held after some events to what a render hands over. -/
def planSince (page : PageId) (seen : List StoreEvent) (rendered : Option SetCollection) : Plan :=
  Plan.between (((run page seen).store.record? page).map (·.toCollection))
    (SetCollection.forPage page rendered)

theorem pageId_planSince (page : PageId) (seen : List StoreEvent)
    (rendered : Option SetCollection) :
    (planSince page seen rendered).isEmpty = true ∨
      (planSince page seen rendered).pageId = page := by
  refine Plan.pageId_between ?_ fun _ => SetCollection.pageId_of_forPage
  intro c loaded
  rcases Option.map_eq_some_iff.1 loaded with ⟨r, stored, rfl⟩
  have own := pageId_recordOf_run page seen
  rw [MemoryStore.recordOf_eq_of_some stored] at own
  rw [PageRecord.pageId_toCollection, own]

/-- While identifiers keep their names, a plan of any time does at any time what it was made for. -/
theorem KeepsNames.mayTurn {events : List StoreEvent} (keeps : KeepsNames page events)
    {seen later : List StoreEvent} (started : seen <+: events) (started' : later <+: events)
    (rendered : Option SetCollection) (now : Timestamp) {id : SetId} {s : StoredSet}
    (found : (run page later).store.set? page id = some s) :
    Plan.MayTurn (((run page seen).store.record? page).map (·.toCollection))
      (SetCollection.forPage page rendered) s
      (((run page later).store.save (planSince page seen rendered) now).2.set? page id) := by
  cases busy : (planSince page seen rendered).isEmpty with
  | true =>
      rw [MemoryStore.save, if_pos busy, found]
      exact .kept rfl (Or.inl rfl)
  | false =>
      have own := (pageId_planSince page seen rendered).resolve_left (by simp [busy])
      rw [MemoryStore.set?_save busy own]
      refine Plan.mayTurn_apply_between (recorded_run page later).idsBelow ?_ _ now found
      intro r stored i a b first second
      refine keeps seen later started started' i a b ?_ second
      rwa [MemoryStore.set?, MemoryStore.recordOf_eq_of_some stored]

/--
Over a run of saves and deletions the identifiers of a page keep their names
exactly if the lives of the page give comparable names. In that case a plan made
against what the page held at any time, and saved at any other, deletes only
sets whose names it knew and had to delete, and changes only sets whose names it
was to store.
-/
theorem keepsNames_iff_comparable (page : PageId) (events : List StoreEvent) :
    (KeepsNames page events ↔
      ∀ life ∈ (run page events).lives, ∀ life' ∈ (run page events).lives,
        Comparable life life') ∧
      (KeepsNames page events → ∀ seen later, seen <+: events → later <+: events →
        ∀ rendered now id s, (run page later).store.set? page id = some s →
          Plan.MayTurn (((run page seen).store.record? page).map (·.toCollection))
            (SetCollection.forPage page rendered) s
            (((MemoryStore.gateway.savePlan (planSince page seen rendered) now).run.run
              (run page later).store).2.set? page id)) := by
  refine ⟨⟨?_, ?_⟩, ?_⟩
  · intro keeps life lived life' lived'
    rw [comparable_iff]
    intro i a b first second
    rcases exists_set_of_life lived first with ⟨done, started, s, found, rfl⟩
    rcases exists_set_of_life lived' second with ⟨later, started', t, found', rfl⟩
    exact keeps done later started started' (i + 1) s t found found'
  · intro comparable done later started started' id s t found found'
    rcases exists_life_of_set started found with ⟨life, lived, first⟩
    rcases exists_life_of_set started' found' with ⟨life', lived', second⟩
    exact comparable_iff.1 (comparable life lived life' lived') _ _ _ first second
  · intro keeps seen later started started' rendered now id s found
    rw [MemoryStore.run_savePlan]
    exact keeps.mayTurn started started' rendered now found

/-- A page that gives its first identifier, is deleted and gives the identifier again. -/
def deletedBetween : List StoreEvent :=
  let now : Timestamp := ⟨2024, 1, 1, 0, 0, 0, 0⟩
  let rev : RevId := 1
  [.save { pageId := 5, newRevId := rev, inserts := [{ name := "a", vars := ∅ }] } now,
    .deleteAll 5,
    .save { pageId := 5, newRevId := rev, inserts := [{ name := "b", vars := ∅ }] } now]

/-- The identifier of the deleted set goes to one of another name, which a stale plan deletes. -/
theorem deletedBetween_not_keepsNames :
    ¬KeepsNames 5 deletedBetween ∧
      ((run 5 deletedBetween).store.set? 5 1).map (·.name) = some "b" ∧
      ((run 5 deletedBetween).store.save (planSince 5 (deletedBetween.take 1) none)
        ⟨2024, 1, 2, 0, 0, 0, 0⟩).2.set? 5 1 = none := by
  have first : (run 5 (deletedBetween.take 1)).store.set? 5 1 =
      some { name := "a", revId := 1, vars := ∅ } := by decide
  have second : (run 5 deletedBetween).store.set? 5 1 =
      some { name := "b", revId := 1, vars := ∅ } := by decide
  refine ⟨fun keeps => ?_, by rw [second]; rfl, by decide⟩
  have same := keeps _ _ (List.take_prefix 1 deletedBetween) (List.prefix_refl _) 1 _ _ first second
  exact absurd same (by decide)

end StoreHistory

end TemplateVars
