import Mathlib.Data.List.Infix
import TemplateVars.Proofs.Page.Dated
import TemplateVars.Proofs.Store.Memory
import TemplateVars.Proofs.Store.Undisturbed

/-!
# One gateway, two stores

Nobody who only calls a gateway can tell whether pages are stored in memory or
in a directory that nobody else touches. The two stores mirror each other: what
is stored for a page differs in the time of writing alone, and nothing that a
gateway gives depends on it. Each call gives the same in both and leaves stores
that mirror each other again.
-/

namespace TemplateVars

/-- A call of a gateway. -/
inductive StoreCall where
  | loadSets (page : PageId)
  | loadFiltered (page : PageId) (set : String) (names : List String)
  | savePlan (p : Plan)
  | deleteAll (page : PageId)

/-- What a call of a gateway gives. -/
inductive StoreAnswer where
  | sets (loaded : Option SetCollection)
  | variables (loaded : Option (SortedMap String Variable))
  | saved (outcome : SaveOutcome)
  | deleted (was : Bool)
  deriving DecidableEq

/-- The page that a call is about. -/
def StoreCall.page : StoreCall → PageId
  | loadSets page | loadFiltered page _ _ | deleteAll page => page
  | savePlan p => p.pageId

namespace Gateway

variable {σ : Type} (g : Gateway σ)

/-- Make a call. -/
def answer (now : Timestamp) : StoreCall → StoreAction σ StoreAnswer
  | .loadSets page => return .sets (← g.loadSets page)
  | .loadFiltered page set names => return .variables (← g.loadFiltered page set names)
  | .savePlan p => return .saved (← g.savePlan p now)
  | .deleteAll page => return .deleted (← g.deleteAll page)

/-- Make calls one after another, each at the time that the clock shows for its number. -/
def answers (clock : Nat → Timestamp) : List StoreCall → StoreAction σ (List StoreAnswer)
  | [] => return []
  | c :: calls => do
    let a ← g.answer (clock 0) c
    let rest ← answers (fun n => clock (n + 1)) calls
    return a :: rest

end Gateway

/-- A record of a page that is read back from its file, with all identifiers below the next one. -/
structure PageRecord.KeptFor (page : PageId) (r : PageRecord) : Prop where
  storable : r.Storable
  own : r.pageId = page
  idsBelow : r.IdsBelow

/-- Whether the next identifiers of all pages fit 64 bits. -/
def MemoryStore.NumbersFit (m : MemoryStore) : Prop :=
  ∀ page r, m.record? page = some r → r.nextSetId ≤ Text.maxWord64

instance (m : MemoryStore) : Decidable m.NumbersFit :=
  decidable_of_iff (∀ e ∈ m.pages.toList, e.2.nextSetId ≤ Text.maxWord64)
    (SortedMap.forall_find?_iff (p := fun _ (r : PageRecord) =>
      r.nextSetId ≤ Text.maxWord64)).symm

namespace DirectoryStore

open TemplateVars.Action

variable {s : DirectoryStore} {m : MemoryStore} {h : Host}

variable (s) in
/-- Whether a call is about a page that can have a file, and its numbers fit 64 bits. -/
structure Admits (c : StoreCall) : Prop where
  serves : s.Serves c.page
  revision : ∀ p, c = .savePlan p → p.newRevId ≤ Text.maxWord64

variable (s) in
/-- The page files are those of records which are the ones in memory up to the time of writing. -/
structure Mirrors (records : PageId → Option PageRecord) (m : MemoryStore) (h : Host) : Prop where
  files : ∃ contents, Holds s contents h ∧ ∀ page, Reads page (contents page) (records page)
  kept : ∀ page r, records page = some r → r.KeptFor page
  same : ∀ page, ∃ time, m.record? page = (records page).map (·.dated time)

variable {records : PageId → Option PageRecord} {page : PageId}

/-- A change of one page on both sides keeps them alike. -/
theorem Mirrors.update {m' : MemoryStore} {h' : Host} {contents : PageId → Option ByteArray}
    {content : Option ByteArray} {stored : Option PageRecord} (mirrors : Mirrors s records m h)
    (reads : ∀ page, Reads page (contents page) (records page))
    (holds : Holds s (Function.update contents page content) h') (read : Reads page content stored)
    (kept : ∀ r, stored = some r → r.KeptFor page) (time : Option Timestamp)
    (changed : ∀ other, m'.record? other =
      if other = page then stored.map (·.dated time) else m.record? other) :
    Mirrors s (Function.update records page stored) m' h' := by
  refine ⟨⟨_, holds, ?_⟩, ?_, ?_⟩
  · intro other
    rw [Function.update_apply, Function.update_apply]
    split
    · rename_i this
      rwa [this]
    · exact reads other
  · intro other r found
    rw [Function.update_apply] at found
    split at found
    · rename_i this
      rw [this]
      exact kept r found
    · exact mirrors.kept other r found
  · intro other
    rw [changed, Function.update_apply]
    split
    · exact ⟨time, rfl⟩
    · exact mirrors.same other

/-! ### Single calls -/

/-- What saving a plan reports does not depend on the time of writing. -/
theorem saved_dated (p : Plan) (now now' : Timestamp) (stored : Option PageRecord)
    (time : Option Timestamp) :
    p.saved now' (stored.map (·.dated time)) = p.saved now stored := by
  obtain ⟨time', same⟩ : ∃ time', (stored.map (·.dated time)).getD { pageId := p.pageId } =
      (stored.getD { pageId := p.pageId }).dated time' := by
    cases stored with
    | none => exact ⟨none, rfl⟩
    | some r => exact ⟨time, rfl⟩
  rw [Plan.saved, Plan.saved, same, p.apply_dated now now']
  rfl

theorem saved_save (m : MemoryStore) (p : Plan) (now : Timestamp) :
    (m.save p now).1 = p.saved now (m.record? p.pageId) := by
  rw [MemoryStore.save, Plan.saved]
  split <;> rfl

theorem keptFor_outcome {p : Plan} {now : Timestamp} {stored : Option PageRecord}
    (kept : ∀ r, stored = some r → r.KeptFor p.pageId) (small : p.pageId ≤ Text.maxWord64)
    (revision : p.newRevId ≤ Text.maxWord64) (valid : now.isValid = true)
    (fits : ∀ r, p.outcome now stored = some r → r.nextSetId ≤ Text.maxWord64) (r : PageRecord)
    (saved : p.outcome now stored = some r) : r.KeptFor p.pageId where
  storable :=
    Plan.storable_outcome (fun r before => (kept r before).storable) small revision valid saved
      (fits r saved)
  own := Plan.pageId_outcome (fun r before => (kept r before).own) saved
  idsBelow := by
    rcases Plan.outcome_eq_some saved with before | ⟨-, rfl⟩
    · exact (kept r before).idsBelow
    · refine Plan.idsBelow_apply ?_ now
      cases stored with
      | none => exact (PageRecord.wellFormed_new p.pageId).idsBelow
      | some r => exact (kept r rfl).idsBelow

theorem Mirrors.run_savePlan (mirrors : Mirrors s records m h) {p : Plan}
    (serves : s.Serves p.pageId) (revision : p.newRevId ≤ Text.maxWord64) {now : Timestamp}
    (valid : now.isValid = true) (now' : Timestamp) (fits : (m.save p now').2.NumbersFit) :
    ∃ h' records', (s.save p now).run.run h = (.ok (m.save p now').1, h') ∧
      Mirrors s records' (m.save p now').2 h' := by
  rcases mirrors.files with ⟨contents, holds, reads⟩
  rcases mirrors.same p.pageId with ⟨time, found⟩
  rcases p.outcome_dated now now' (records p.pageId) time with ⟨time', outcome⟩
  have changed (other : PageId) : (m.save p now').2.record? other =
      if other = p.pageId then (p.outcome now (records p.pageId)).map (·.dated time')
      else m.record? other := by
    rw [MemoryStore.record?_save]
    split
    · rename_i this
      rw [this, found, outcome]
    · rfl
  have small (r : PageRecord) (left : p.outcome now (records p.pageId) = some r) :
      r.nextSetId ≤ Text.maxWord64 := by
    refine fits p.pageId (r.dated time') ?_
    have written := changed p.pageId
    rw [if_pos rfl, left] at written
    exact written
  have kept := keptFor_outcome (mirrors.kept p.pageId) serves.page_le revision valid small
  rcases holds.run_save serves rfl (reads p.pageId) now (fun _ r left => (kept r left).storable)
    with ⟨h', content, ran, holds', read⟩
  refine ⟨h', _, ?_, mirrors.update reads holds' read kept time' changed⟩
  rw [saved_save, found, saved_dated p now now']
  exact ran

theorem Mirrors.answer (mirrors : Mirrors s records m h) {c : StoreCall} (admits : s.Admits c)
    {now : Timestamp} (valid : now.isValid = true) (now' : Timestamp)
    (fits : ((MemoryStore.gateway.answer now' c).run.run m).2.NumbersFit) :
    ∃ a h' m' records', (s.gateway.answer now c).run.run h = (.ok a, h') ∧
      (MemoryStore.gateway.answer now' c).run.run m = (.ok a, m') ∧ Mirrors s records' m' h' := by
  rcases mirrors.files with ⟨contents, holds, reads⟩
  have serves := admits.serves
  cases c with
  | loadSets page =>
      rcases holds.run_loadRecord serves (reads page) with ⟨h', ran, holds'⟩
      rcases mirrors.same page with ⟨time, found⟩
      refine ⟨_, h', m, records, run_bind_of_ok (run_bind_of_ok ran _) _, ?_,
        ⟨contents, holds', reads⟩, mirrors.kept, mirrors.same⟩
      refine (run_bind_of_ok (MemoryStore.run_loadSets page m) _).trans ?_
      rw [found, Option.map_map]
      rfl
  | loadFiltered page set names =>
      rcases holds.run_loadRecord serves (reads page) with ⟨h', ran, holds'⟩
      rcases mirrors.same page with ⟨time, found⟩
      refine ⟨_, h', m, records, run_bind_of_ok (run_bind_of_ok ran _) _, ?_,
        ⟨contents, holds', reads⟩, mirrors.kept, mirrors.same⟩
      refine (run_bind_of_ok (MemoryStore.run_loadFiltered page set names m) _).trans ?_
      rw [found, Option.bind_map]
      rfl
  | savePlan p =>
      rcases mirrors.run_savePlan serves (admits.revision p rfl) valid now' fits with
        ⟨h', records', ran, after⟩
      exact ⟨_, h', (m.save p now').2, records', run_bind_of_ok ran _,
        run_bind_of_ok (MemoryStore.run_savePlan p now' m) _, after⟩
  | deleteAll page =>
      rcases holds.run_deleteAll serves with ⟨h', ran, holds'⟩
      rcases mirrors.same page with ⟨time, found⟩
      refine ⟨_, h', { m with pages := m.pages.erase page }, _, run_bind_of_ok ran _, ?_,
        mirrors.update reads holds' .nothing nofun time (m.record?_deleteAll page)⟩
      refine (run_bind_of_ok (MemoryStore.run_deleteAll page m) _).trans ?_
      have was : m.pages.contains page = (m.record? page).isSome := rfl
      have there : (contents page).isSome = (records page).isSome := (reads page).isSome_eq
      rw [was, found, Option.isSome_map, ← there]
      rfl

/-! ### Sequences of calls -/

theorem exists_answer_memory (now : Timestamp) (c : StoreCall) (m : MemoryStore) :
    ∃ a m', (MemoryStore.gateway.answer now c).run.run m = (.ok a, m') := by
  cases c with
  | loadSets page => exact ⟨_, _, rfl⟩
  | loadFiltered page set names => exact ⟨_, _, rfl⟩
  | savePlan p => exact ⟨_, _, rfl⟩
  | deleteAll page => exact ⟨_, _, rfl⟩

theorem Mirrors.answers {calls : List StoreCall} (mirrors : Mirrors s records m h)
    (admits : ∀ c ∈ calls, s.Admits c) {clock clock' : Nat → Timestamp}
    (valid : ∀ n, (clock n).isValid = true)
    (fits : ∀ done, done <+: calls →
      ((MemoryStore.gateway.answers clock' done).run.run m).2.NumbersFit) :
    ∃ given h' m' records', (s.gateway.answers clock calls).run.run h = (.ok given, h') ∧
      (MemoryStore.gateway.answers clock' calls).run.run m = (.ok given, m') ∧
        Mirrors s records' m' h' := by
  induction calls generalizing m h records clock clock' with
  | nil => exact ⟨[], h, m, records, rfl, rfl, mirrors⟩
  | cons c calls ih =>
      rcases exists_answer_memory (clock' 0) c m with ⟨a', m₁, remembered⟩
      have first := fits [c] ⟨calls, rfl⟩
      rw [Gateway.answers, run_bind_of_ok remembered, snd_run_bind_pure] at first
      rcases mirrors.answer (admits c List.mem_cons_self) (valid 0) (clock' 0)
        (by rwa [remembered]) with ⟨a, h₁, m₁', records₁, ran, ran', mirrors₁⟩
      rw [remembered] at ran'
      cases ran'
      have later (done : List StoreCall) (started : done <+: calls) :
          ((MemoryStore.gateway.answers (fun n => clock' (n + 1)) done).run.run
            m₁).2.NumbersFit := by
        have whole := fits (c :: done) (List.cons_prefix_cons.2 ⟨rfl, started⟩)
        rwa [Gateway.answers, run_bind_of_ok remembered, snd_run_bind_pure] at whole
      rcases ih mirrors₁ (fun c listed => admits c (List.mem_cons_of_mem _ listed))
        (fun n => valid (n + 1)) later with
        ⟨given, h', m', records', rest, rest', after⟩
      refine ⟨a' :: given, h', m', records', ?_, ?_, after⟩
      · exact (run_bind_of_ok ran _).trans (run_bind_of_ok rest _)
      · exact (run_bind_of_ok remembered _).trans (run_bind_of_ok rest' _)

end DirectoryStore

/-- A path leads to a directory without anything beneath it. -/
def Disk.EmptyAt (d : Disk) (p : Path) : Prop :=
  ∃ place, d.locate p = .ok place ∧ d.entry? place = some .directory ∧
    ∀ beneath, beneath ≠ [] → d.entry? (place ++ beneath) = none

namespace DirectoryStore

variable {s : DirectoryStore} {h : Host}

variable (s) in
/-- The directory of a store is empty, or it is missing and making it leaves an empty one. -/
def Vacant (d : Disk) : Prop :=
  d.EmptyAt s.root ∨ d.pathExists s.root = false ∧
    ∃ d', (Disk.makeDirectories s.lockPath.parent).run.run d = (.ok (), d') ∧ d'.EmptyAt s.root

theorem files_of_emptyAt {d : Disk} (empty : d.EmptyAt s.root) :
    ∃ root, Files s root (fun _ => none) d := by
  rcases empty with ⟨root, located, directory, nothing⟩
  refine ⟨root, located, directory, ?_, Or.inr ⟨nothing _ (by simp), fun _ => rfl⟩, ?_, nofun⟩
  · rw [nothing _ (by simp)]
    nofun
  · intro page _
    exact nothing _ (by simp)

theorem mirrors_of_vacant (unlocked : h.guards = []) (vacant : s.Vacant h.disk) :
    Mirrors s (fun _ => none) {} h := by
  refine ⟨⟨fun _ => none, ⟨unlocked, ?_⟩, fun _ => .nothing⟩, nofun, fun _ => ⟨none, rfl⟩⟩
  rcases vacant with empty | ⟨missing, d, made, empty⟩
  · exact Or.inl (files_of_emptyAt empty)
  · rcases files_of_emptyAt empty with ⟨root, files⟩
    exact Or.inr ⟨missing, fun _ => rfl, d, root, made, files⟩

/--
Any sequence of calls gives the same from an empty memory and from a directory
that was empty or missing at first, whatever the times of the calls are. All
that can differ afterwards is the time that a page was last written at.
-/
theorem answers_as_in_memory (s : DirectoryStore) (calls : List StoreCall)
    (admits : ∀ c ∈ calls, s.Admits c) {h : Host} (unlocked : h.guards = [])
    (vacant : s.Vacant h.disk) {clock clock' : Nat → Timestamp}
    (valid : ∀ n, (clock n).isValid = true)
    (fits : ∀ done, done <+: calls →
      ((MemoryStore.gateway.answers clock' done).run.run {}).2.NumbersFit) :
    ∃ given h' m' records', (s.gateway.answers clock calls).run.run h = (.ok given, h') ∧
      (MemoryStore.gateway.answers clock' calls).run.run {} = (.ok given, m') ∧
        s.Mirrors records' m' h' :=
  (mirrors_of_vacant unlocked vacant).answers admits valid fits

/-- A page is saved, loaded, loaded in part, deleted, and looked for. -/
def savedAndDeleted : List StoreCall := [
  .savePlan (.between none (some {
    pageId := 7
    revId := 3
    sets := .ofList [("", { name := "", vars := .ofList [("x", .text "1")] })] })),
  .loadSets 7, .loadFiltered 7 "" ["x"], .deleteAll 7, .loadSets 7]

theorem vacant_of_missing : Vacant ⟨⟨["store"]⟩⟩ (Disk.empty ["home"]) := by
  have absent (beneath : Place) :
      Disk.entry? (.empty ["home"]) ("home" :: "store" :: beneath) = none := by
    have places : (Disk.empty ["home"]).entries =
        .ofList [([], .directory), (["home"], .directory)] := by decide
    rw [Disk.entry?, places, SortedMap.find?_ofList, SortedMap.lookup_eq_none]
    simp
  have located : (Disk.empty ["home"]).locate ⟨["store"]⟩ = .ok ["home", "store"] := by decide
  have made := (Disk.run_ensureDirectory (by decide) located).2 (absent [])
  have parent : (⟨⟨["store"]⟩⟩ : DirectoryStore).lockPath.parent = ⟨["store"]⟩ := by decide
  refine Or.inr ⟨by decide, (Disk.empty ["home"]).put ["home", "store"] .directory, ?_,
    ["home", "store"], by decide, by decide, ?_⟩
  · rw [parent]
    exact Disk.run_makeDirectories (fun _ => made) fun nothing => absurd nothing (by decide)
  · intro beneath some
    rw [Disk.entry?_put, if_neg (by simpa using some)]
    exact absent beneath

theorem admits_savedAndDeleted :
    ∀ c ∈ savedAndDeleted, (⟨⟨["store"]⟩⟩ : DirectoryStore).Admits c := by
  have serves : (⟨⟨["store"]⟩⟩ : DirectoryStore).Serves 7 := ⟨by decide, by decide⟩
  intro c listed
  simp only [savedAndDeleted, List.mem_cons, List.not_mem_nil, or_false] at listed
  rcases listed with rfl | rfl | rfl | rfl | rfl
  · refine ⟨serves, ?_⟩
    rintro p ⟨⟩
    decide
  all_goals
    refine ⟨serves, ?_⟩
    intro p nothing
    cases nothing

/-- The two clocks show different times, and the directory is missing at first. -/
theorem answers_as_in_memory_savedAndDeleted :
    let s : DirectoryStore := ⟨⟨["store"]⟩⟩
    let h : Host := { disk := .empty ["home"] }
    let clock : Nat → Timestamp := fun _ => ⟨2024, 1, 1, 0, 0, 0, 0⟩
    let clock' : Nat → Timestamp := fun _ => ⟨2025, 1, 1, 0, 0, 0, 0⟩
    (∀ c ∈ savedAndDeleted, s.Admits c) ∧ s.Vacant h.disk ∧ h.disk.pathExists s.root = false ∧
      ∃ given h' m' records',
        (s.gateway.answers clock savedAndDeleted).run.run h = (.ok given, h') ∧
        (MemoryStore.gateway.answers clock' savedAndDeleted).run.run {} = (.ok given, m') ∧
          s.Mirrors records' m' h' := by
  intro s h clock clock'
  have fits : ∀ done ∈ savedAndDeleted.inits,
      ((MemoryStore.gateway.answers clock' done).run.run {}).2.NumbersFit := by decide
  refine ⟨admits_savedAndDeleted, vacant_of_missing, by decide,
    answers_as_in_memory s savedAndDeleted admits_savedAndDeleted rfl vacant_of_missing
      (fun _ => by decide) fun done started => fits done ((List.mem_inits done _).2 started)⟩

end DirectoryStore

end TemplateVars
