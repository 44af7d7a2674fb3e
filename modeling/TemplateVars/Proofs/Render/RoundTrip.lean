import TemplateVars.Proofs.Page.Filtered
import TemplateVars.Proofs.Render.Loading
import TemplateVars.Proofs.Render.Saves
import TemplateVars.Proofs.Store.Gateways
import TemplateVars.Proofs.Store.Rereading

/-!
# From saving to loading

What a render saves is stored when its stash is flushed, and can be loaded into
the frames of other renders. On the way names are cut to the width of storage
keys, a later save takes the place of an earlier one, and what the page had
stored before is gone.
-/

namespace TemplateVars

open TemplateVars.Action

namespace DirectoryStore

variable {s : DirectoryStore} {page : PageId} {stored : Option PageRecord} {h h' : Host}

theorem run_loadFiltered (loaded : (s.loadRecord page).run.run h = (.ok stored, h')) (set : String)
    (names : List String) :
    (s.gateway.loadFiltered page set names).run.run h =
      (.ok (stored.bind (·.filtered set names)), h') :=
  run_bind_of_ok loaded _

end DirectoryStore

namespace Gateway

/-- What a page has in a store of either kind, as far as loading it can tell. -/
inductive Finds (page : PageId) (stored : Option PageRecord) : {σ : Type} → Gateway σ → σ → Prop
  | memory (m : MemoryStore) (record : m.record? page = stored) :
      Finds page stored MemoryStore.gateway m
  | directory (s : DirectoryStore) (h : Host) (finds : s.Finds page stored h) :
      Finds page stored s.gateway h

variable {σ : Type} {g : Gateway σ} {page : PageId} {stored : Option PageRecord} {a b c : σ}

/-- Whatever is asked for of a page is answered from a record, or from none. -/
def Gives (g : Gateway σ) (page : PageId) (stored : Option PageRecord) (state : σ) : Prop :=
  ∀ set names, ∃ later, (g.loadFiltered page set names).run.run state =
    (.ok (stored.bind (·.filtered set names)), later)

theorem Finds.of_loadSets (finds : g.Finds page stored a) {old : Option SetCollection}
    (loaded : (g.loadSets page).run.run a = (.ok old, b)) :
    old = stored.map (·.toCollection) ∧ g.Gives page stored b := by
  cases finds with
  | memory m record =>
      subst record
      rw [MemoryStore.run_loadSets] at loaded
      cases loaded
      exact ⟨rfl, fun set names => ⟨m, MemoryStore.run_loadFiltered page set names m⟩⟩
  | directory s _ finds =>
      rcases DirectoryStore.of_run_loadSets loaded with ⟨found, ran, rfl⟩
      cases finds.eq_of_run ran
      rcases DirectoryStore.rereads_of_loadRecord finds.named ran with ⟨later, again⟩
      exact ⟨rfl, fun set names => ⟨later, DirectoryStore.run_loadFiltered again set names⟩⟩

theorem Finds.of_savePlan (finds : g.Finds page stored a) {old : Option SetCollection}
    (loaded : (g.loadSets page).run.run a = (.ok old, b)) {p : Plan} (same : p.pageId = page)
    (busy : p.isEmpty = false) {now : Timestamp}
    (storable : (∀ r, stored = some r → r.Storable) →
      ∀ r, p.outcome now stored = some r → r.Storable) {o : SaveOutcome}
    (saved : (g.savePlan p now).run.run b = (.ok o, c)) :
    g.Gives page (p.outcome now stored) c := by
  subst same
  intro set names
  cases finds with
  | memory m record =>
      subst record
      rw [MemoryStore.run_loadSets] at loaded
      cases loaded
      rw [MemoryStore.run_savePlan] at saved
      cases saved
      refine ⟨(m.save p now).2, ?_⟩
      rw [MemoryStore.run_loadFiltered, MemoryStore.record?_save, if_pos rfl]
  | directory s _ finds =>
      rcases DirectoryStore.of_run_loadSets loaded with ⟨found, ran, -⟩
      cases finds.eq_of_run ran
      rcases DirectoryStore.rereads_of_save finds.named busy
        (fun d other gains read => finds.eq_of_gains ran gains read)
        (storable fun r some => finds.storable ran some) saved with ⟨later, again⟩
      exact ⟨later, DirectoryStore.run_loadFiltered again set names⟩

end Gateway

/-- The plan that a flush makes against what a page has stored. -/
def Stash.planFor (stash : Stash) (page : PageId) (rev : RevId) (stored : Option PageRecord) :
    Plan :=
  .between (stored.map (·.toCollection)) (stash.handedOver page rev)

namespace Stash

variable {stash : Stash} {page : PageId} {rev : RevId} {stored : Option PageRecord}

theorem pageId_planFor (own : ∀ r, stored = some r → r.pageId = page)
    (busy : (stash.planFor page rev stored).isEmpty = false) :
    (stash.planFor page rev stored).pageId = page := by
  refine (Plan.pageId_between ?_ ?_).resolve_left (by simpa [planFor] using busy)
  · intro c loaded
    rcases Option.map_eq_some_iff.1 loaded with ⟨r, found, rfl⟩
    rw [PageRecord.pageId_toCollection, own r found]
  · intro c handed
    rcases Option.map_eq_some_iff.1 handed with ⟨held, -, rfl⟩
    rfl

theorem newRevId_planFor_le {n : RevId} (small : rev ≤ n)
    (before : ∀ r, stored = some r → r.newestRevId ≤ n) :
    (stash.planFor page rev stored).newRevId ≤ n := by
  rw [planFor]
  cases handed : stash.handedOver page rev with
  | some c =>
      rcases Option.map_eq_some_iff.1 handed with ⟨held, -, rfl⟩
      rw [Plan.newRevId_between_some]
      exact small
  | none =>
      cases stored with
      | none => exact Nat.zero_le n
      | some r =>
          rw [Option.map_some, Plan.between_none_right, Plan.newRevId_between_some,
            PageRecord.revId_toCollection]
          exact before r rfl

/-- What is planned for can be stored if what was stored can be, and the next identifier fits. -/
theorem storable_planFor (small : page ≤ Text.maxWord64 ∧ rev ≤ Text.maxWord64)
    {now : Timestamp} (valid : now.isValid = true)
    (own : ∀ r, stored = some r → r.pageId = page)
    (room : ∀ r, (stash.planFor page rev stored).outcome now stored = some r →
      r.nextSetId ≤ Text.maxWord64)
    (busy : (stash.planFor page rev stored).isEmpty = false)
    (before : ∀ r, stored = some r → r.Storable) (r : PageRecord)
    (left : (stash.planFor page rev stored).outcome now stored = some r) : r.Storable := by
  refine Plan.storable_outcome before ?_ ?_ valid left (room r left)
  · rw [pageId_planFor own busy]
    exact small.1
  · exact newRevId_planFor_le small.2 fun r found =>
      PageRecord.newestRevId_le fun id s stored => ((before r found).sets_le id s stored).2

theorem stored?_planFor (gathered : stash.Gathered)
    (sound : ∀ r, stored = some r → r.WellFormed ∧ r.pageId = page) (now : Timestamp)
    (set name : String) :
    ((stash.planFor page rev stored).outcome now stored).bind (·.stored? set name) =
      stash.gathered? set name := by
  rw [planFor, Plan.stored?_outcome_between sound (gathered.renderedFor page rev), handedOver,
    gathered?]
  cases stash.get? savedSetsKey <;> rfl

end Stash

namespace Engine

variable {σ : Type} {e : Engine σ} {page : PageId} {rev : RevId} {stored : Option PageRecord}
  {now : Timestamp} {before after : σ}

/-- Once a flush has succeeded, what its plan makes of the page is loaded. -/
theorem gives_of_flush (on : e.features.data = true) {stash left : Stash} {outcome : FlushOutcome}
    (finds : e.gateway.Finds page stored before)
    (own : ∀ r, stored = some r → r.pageId = page)
    (small : page ≤ Text.maxWord64 ∧ rev ≤ Text.maxWord64) (valid : now.isValid = true)
    (room : ∀ r, (stash.planFor page rev stored).outcome now stored = some r →
      r.nextSetId ≤ Text.maxWord64)
    (flushed : e.flush stash page rev now before = (.ok outcome, left, after)) :
    e.gateway.Gives page ((stash.planFor page rev stored).outcome now stored) after := by
  rw [flush_of_enabled on, Prod.mk.injEq, Prod.mk.injEq] at flushed
  rcases flushed with ⟨gave, -, host⟩
  rcases of_run_persist (Prod.ext gave host) with ⟨old, loaded, ran, rest⟩
  rcases finds.of_loadSets ran with ⟨rfl, gives⟩
  rcases rest with ⟨nothing, rfl⟩ | ⟨busy, o, saved⟩
  · rw [Stash.planFor, Plan.outcome_of_isEmpty nothing]
    exact gives
  · exact finds.of_savePlan ran (Stash.pageId_planFor own busy) busy
      (Stash.storable_planFor small valid own room busy) saved

/-- What a call of `load` asks for: the last saves under its names, or all of its set. -/
def requested (e : Engine σ) (saves : List SaveCall) (call : VerbCall) (name : String) :
    Option Variable :=
  if call.names = [] ∨ name ∈ call.names.map truncateName then
    e.lastSaved saves call.setKey name
  else none

variable {saves : List SaveCall} {call : VerbCall}

theorem lastSaved_of_disabled (off : e.features.data = false) (set name : String) :
    e.lastSaved saves set name = none := by
  have nothing : ∀ s ∈ saves, e.writes set s = [] := by
    intro s _
    simp [writes, off]
  rw [lastSaved, List.flatMap_eq_nil_iff.2 nothing]
  rfl

/-- What is loaded from the record that a flush leaves is what was saved last. -/
theorem find?_filtered_planFor
    (sound : ∀ r, stored = some r → r.WellFormed ∧ r.pageId = page) (name : String) :
    ((((e.gather saves {}).planFor page rev stored).outcome now stored).bind
        (·.filtered (call.options.setName.getD "") call.names)).bind (·.find? name) =
      e.requested saves call name := by
  have whole :
      ((((e.gather saves {}).planFor page rev stored).outcome now stored).bind
        (·.stored? call.setKey name)) = (e.gather saves {}).gathered? call.setKey name :=
    Stash.stored?_planFor (e.gathered_gather saves) sound now call.setKey name
  rw [gathered?_gather] at whole
  have nothing : ({} : Stash).gathered? call.setKey name = none := rfl
  rw [nothing, Option.or_none] at whole
  rw [requested, ← whole]
  cases ((e.gather saves {}).planFor page rev stored).outcome now stored with
  | none => simp
  | some r => exact r.find?_filtered ..

/--
After a render that starts with an empty stash has made some calls of `save` and
has flushed its stash, loading a set into a frame that lacks its variables binds
each that was asked for and saved, as it was saved last, and nothing else.
-/
theorem receives_after_flush {outcome : FlushOutcome} {left : Stash}
    (finds : e.gateway.Finds page stored before)
    (sound : ∀ r, stored = some r → r.WellFormed ∧ r.pageId = page)
    (small : page ≤ Text.maxWord64 ∧ rev ≤ Text.maxWord64) (valid : now.isValid = true)
    (room : ∀ r, ((e.gather saves {}).planFor page rev stored).outcome now stored = some r →
      r.nextSetId ≤ Text.maxWord64)
    (flushed : e.flush (e.gather saves {}) page rev now before = (.ok outcome, left, after))
    {expander : Expander} {t : Tree} {frame : FrameId} (reached : Tree.Reachable expander t)
    (there : (t.frame? frame).isSome) (gate : call.options.gateOpen = true)
    (cased : call.options.anyCase = false)
    (free : ∀ name v, e.lastSaved saves call.setKey name = some v →
      t.locateLocal frame name false = none) :
    ∃ n t', (e.load call t frame page after).1.value = .ok (n, t') ∧
      t.Receives frame (e.requested saves call) n t' := by
  rcases Option.isSome_iff_exists.1 there with ⟨f, found⟩
  have apart (name : String) (v : Variable) (asked : e.requested saves call name = some v) :
      t.locateLocal frame name false = none := by
    rw [requested] at asked
    split at asked
    · exact free name v asked
    · cases asked
  cases on : e.features.data with
  | false =>
      refine ⟨0, t, ?_, t.receives_nothing frame fun name => ?_⟩
      · simp [load, on]
      · simp [requested, lastSaved_of_disabled on]
  | true =>
      rcases gives_of_flush on finds (fun r found => (sound r found).2) small valid room flushed
        (call.options.setName.getD "") call.names with ⟨later, ran⟩
      have asked := @find?_filtered_planFor σ e page rev stored now saves call sound
      simp only [load, on, gate, cased, ran]
      cases vars : (((e.gather saves {}).planFor page rev stored).outcome now stored).bind
          (·.filtered (call.options.setName.getD "") call.names) with
      | none =>
          rw [vars] at asked
          exact ⟨0, t, rfl, t.receives_nothing frame fun name => (asked name).symm⟩
      | some vars' =>
          rw [vars] at asked
          have same : e.requested saves call = vars'.find? := funext fun name => (asked name).symm
          rw [same] at apart ⊢
          rcases Tree.exists_receives reached.coherent.1 found apart with ⟨n, t', bound, receives⟩
          refine ⟨n, t', ?_, receives⟩
          have result : (bindMissing false frame t vars'.toList).run.value = .ok (n, t') := bound
          simp [result, Except.mapError]

/-- A template of two arguments is saved as text, then one of them again as markup. -/
def savedTwice : List SaveCall := [
  { call := { name := "1", value := some (.text "x") }, tree := Tree.opened, frame := 1,
    page := 7 },
  { call := { name := "x", options := { saveMarkup := true } }, tree := Tree.opened, frame := 1,
    page := 7 }]

/-- The store is in a directory that is still to be made, and the reader has another expander. -/
theorem receives_after_flush_savedTwice :
    let e : Engine Host := { features := {}, gateway := (⟨⟨["store"]⟩⟩ : DirectoryStore).gateway }
    let h : Host := { disk := .empty ["home"] }
    let flushed := e.flush (e.gather savedTwice {}) 7 3 ⟨2024, 1, 1, 0, 0, 0, 0⟩ h
    let reader := Tree.ofPage "Reader" (fun markup => "(" ++ markup ++ ")")
    let all : VerbCall := { name := "" }
    (e.requested savedTwice all "1" = some (.text "a") ∧
      e.requested savedTwice all "x" = some (.needsParse "d")) ∧
    ∃ n t', (e.load all reader Tree.root 7 flushed.2.2).1.value = .ok (n, t') ∧
      reader.Receives Tree.root (e.requested savedTwice all) n t' := by
  intro e h flushed reader all
  let report : ApplyReport := { insertedSets := 1, rowsInserted := 2 }
  have gave : flushed.1 = .ok (.applied { report }) := by
    decide +kernel
  have next : (((e.gather savedTwice {}).planFor 7 3 none).outcome ⟨2024, 1, 1, 0, 0, 0, 0⟩
      none).map (·.nextSetId) = some 2 := by
    decide +kernel
  have flushed_eq : flushed = (.ok (.applied { report }), flushed.2.1, flushed.2.2) := by
    rw [← gave]
  have finds : e.gateway.Finds 7 none h :=
    .directory _ h (DirectoryStore.finds_of_missing (by decide) (by decide)
      fun place e => Disk.eq_directory_of_entry?_empty)
  have sound : ∀ r, (none : Option PageRecord) = some r → r.WellFormed ∧ r.pageId = 7 := nofun
  have room : ∀ r, ((e.gather savedTwice {}).planFor 7 3 none).outcome ⟨2024, 1, 1, 0, 0, 0, 0⟩
      none = some r → r.nextSetId ≤ Text.maxWord64 := by
    intro r left
    rw [left, Option.map_some, Option.some.injEq] at next
    rw [next]
    decide
  have free (name : String) (v : Variable) (_ : e.lastSaved savedTwice all.setKey name = some v) :
      reader.locateLocal Tree.root name false = none := by
    have frame : reader.frame? Tree.root = some { depth := 0, parent := none, title := "Reader" } :=
      rfl
    refine (Tree.locateLocal_eq_none frame).2 ⟨?_, rfl⟩
    cases Key.parse name <;> rfl
  have asked : e.requested savedTwice all "1" = some (.text "a") ∧
      e.requested savedTwice all "x" = some (.needsParse "d") := by
    decide +kernel
  exact ⟨asked, receives_after_flush finds sound (by decide) (by decide) room flushed_eq
    (.page "Reader") rfl rfl rfl free⟩

end Engine

end TemplateVars
