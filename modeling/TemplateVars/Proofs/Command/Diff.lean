import TemplateVars.Proofs.Command.Rendered
import TemplateVars.Proofs.Store.Bystander

/-!
# Running a diff

A diff reads the rendered sets in a file, loads its page, plans and, if asked to
and there is something to do, saves. It ends well only if all of these do, and
what it shows and leaves is then told by the file, the stored record and the plan
between them. As long as it is not asked to save it only reads.
-/

namespace TemplateVars

open TemplateVars.Action

/-- A console on whose disk only directories and lock files have come into being. -/
def Console.Gains (c c' : Console) : Prop := Host.Gains "store.lock" c.host c'.host

instance : IsPreorder Console Console.Gains where
  refl c := refl_of (Host.Gains "store.lock") c.host
  trans _ _ _ first second := trans_of (Host.Gains "store.lock") first second

namespace Command

/-- The rendered sets in a file of a disk, if it holds some. -/
def renderedIn? (d : Disk) (file : Path) : Option RenderedSets :=
  (d.readText file).toOption.bind renderedSets?

/-- The plan of a diff against what a page has stored. -/
def diffPlan (page : PageId) (rev : Option RevId) (stored : Option PageRecord)
    (sets : RenderedSets) : Plan :=
  let old := stored.map (·.toCollection)
  .between old (some (collect page (renderRevision rev old) sets))

/-- The text that a diff shows. -/
def shown (s : Surroundings) (json : Bool) (p : Plan) (report : Option ApplyReport) : String :=
  if json then textOfJson (p.answerJson report) else textOfLines (p.lines s.colored report)

variable {s : Surroundings} {page : PageId} {file : Path} {rev : Option RevId}
  {apply json : Bool} {c c' : Console} {sets : RenderedSets}

/-! ### The steps of a command -/

theorem renderedIn?_eq_some {d : Disk} :
    renderedIn? d file = some sets ↔
      ∃ text, d.readText file = .ok text ∧ renderedSets? text = some sets := by
  rw [renderedIn?]
  cases d.readText file <;> simp [Except.toOption]

theorem run_readRendered_eq_ok :
    (readRendered file).run.run c = (.ok sets, c') ↔
      renderedIn? c.host.disk file = some sets ∧ c' = c := by
  rw [readRendered, run_get_bind, renderedIn?]
  split
  · rename_i fault unread
    simp only [unread]
    constructor
    · intro failed
      cases failed
    · rintro ⟨failed, -⟩
      cases failed
  · rename_i text read
    simp only [read, Except.toOption, Option.bind_some]
    cases renderedSets? text with
    | none =>
        constructor
        · intro failed
          cases failed
        · rintro ⟨failed, -⟩
          cases failed
    | some sets' =>
        constructor
        · intro same
          cases same
          exact ⟨rfl, rfl⟩
        · rintro ⟨same, rfl⟩
          cases same
          rfl

theorem run_onStore {α : Type} (act : StoreAction Host α) (c : Console) :
    (onStore act).run.run c =
      ((act.run.run c.host).1.mapError .store, { c with host := (act.run.run c.host).2 }) := rfl

theorem run_onStore_eq_ok {α : Type} {act : StoreAction Host α} {a : α} :
    (onStore act).run.run c = (.ok a, c') ↔
      ∃ h, act.run.run c.host = (.ok a, h) ∧ c' = { c with host := h } := by
  rw [run_onStore, Prod.mk.injEq, mapError_eq_ok]
  constructor
  · rintro ⟨ran, rfl⟩
    exact ⟨_, Prod.ext ran rfl, rfl⟩
  · rintro ⟨h, ran, rfl⟩
    rw [ran]
    exact ⟨rfl, rfl⟩

/-- A notice that may be raised first makes no difference to what is done on the host. -/
theorem exists_run_raise {α : Type} (wanted : Bool) (notices : List Notice)
    (next : Unit → CommandAction α) (c : Console) :
    ∃ c₁, c₁.host = c.host ∧
      (if wanted then raise notices >>= next else next ()).run.run c = (next ()).run.run c₁ := by
  cases wanted with
  | false => exact ⟨c, rfl, rfl⟩
  | true => exact ⟨{ c with notices := c.notices ++ notices }, rfl, rfl⟩

theorem show_eq_pure (s : Surroundings) (json : Bool) (p : Plan) (report : Option ApplyReport) :
    (if json then return textOfJson (p.answerJson report)
      else return textOfLines (p.lines s.colored report) : CommandAction String) =
      pure (shown s json p report) := by
  rw [shown]
  split <;> rfl

theorem of_run_carryOut {p : Plan} {report : ApplyReport}
    (ran : (carryOut s p).run.run c = (.ok report, c')) :
    ∃ o, (s.store.save p s.now).run.run c.host = (.ok o, c'.host) := by
  rcases run_bind_eq_ok.1 ran with ⟨o, c₁, saved, rest⟩
  rcases run_onStore_eq_ok.1 saved with ⟨h, ranSave, rfl⟩
  cases rest
  exact ⟨o, ranSave⟩

/-- What a diff did if it ended well: it read and loaded, and saved if it had something to do. -/
theorem of_run_runDiff {output : String}
    (ran : (runDiff s page file rev apply json).run.run c = (.ok output, c')) :
    ∃ sets stored h, renderedIn? c.host.disk file = some sets ∧
      (s.store.loadRecord page).run.run c.host = (.ok stored, h) ∧
        ((apply && !(diffPlan page rev stored sets).isEmpty) = false ∧ c'.host = h ∨
          (apply && !(diffPlan page rev stored sets).isEmpty) = true ∧
            ∃ o, (s.store.save (diffPlan page rev stored sets) s.now).run.run h =
              (.ok o, c'.host)) := by
  rcases run_bind_eq_ok.1 ran with ⟨sets, c₁, read, rest⟩
  rcases run_readRendered_eq_ok.1 read with ⟨rendered, rfl⟩
  rcases exists_run_raise _ _ _ c₁ with ⟨c₂, host, same⟩
  rw [same] at rest
  rcases run_bind_eq_ok.1 rest with ⟨old, c₃, loaded, rest⟩
  rcases run_onStore_eq_ok.1 loaded with ⟨h, found, rfl⟩
  rcases DirectoryStore.of_run_loadSets found with ⟨stored, own, rfl⟩
  rw [host] at own
  refine ⟨sets, stored, h, rendered, own, ?_⟩
  simp only [show_eq_pure] at rest
  split at rest
  · rename_i busy
    rcases run_bind_eq_ok.1 rest with ⟨report, c₄, carried, done⟩
    cases done
    rw [map_eq_pure_bind] at carried
    rcases run_bind_eq_ok.1 carried with ⟨_, c₅, carried, done⟩
    cases done
    exact Or.inr ⟨busy, of_run_carryOut carried⟩
  · rename_i idle
    cases rest
    exact Or.inl ⟨Bool.eq_false_iff.2 idle, rfl⟩

/-- A diff that finds nothing to do shows the empty plan. -/
theorem run_runDiff_of_isEmpty (apply json : Bool)
    (rendered : renderedIn? c.host.disk file = some sets)
    {stored : Option PageRecord} {h : Host}
    (loaded : (s.store.loadRecord page).run.run c.host = (.ok stored, h))
    (nothing : (diffPlan page rev stored sets).isEmpty = true) :
    ∃ c', c'.host = h ∧ (runDiff s page file rev apply json).run.run c =
      (.ok (shown s json (diffPlan page rev stored sets) none), c') := by
  have read := run_readRendered_eq_ok.2 ⟨rendered, rfl⟩
  rw [runDiff, run_bind_of_ok read]
  rcases exists_run_raise _ _ _ c with ⟨c₂, host, same⟩
  rw [same]
  rw [← host] at loaded
  have ran : (s.store.gateway.loadSets page).run.run c₂.host =
      (.ok (stored.map (·.toCollection)), h) := run_bind_of_ok loaded _
  refine ⟨{ c₂ with host := h }, rfl, ?_⟩
  refine (run_bind_of_ok (run_onStore_eq_ok.2 ⟨h, ran, rfl⟩) _).trans ?_
  simp only [show_eq_pure]
  rw [if_neg]
  · rfl
  · rw [← diffPlan, nothing]
    simp

/-! ### Reading only -/

theorem keeps_onStore {α : Type} {act : StoreAction Host α}
    (keeps : Keeps (Host.Gains "store.lock") act) : Keeps Console.Gains (onStore act) :=
  fun c => keeps c.host

theorem keeps_raise (notices : List Notice) : Keeps Console.Gains (raise notices) :=
  fun c => refl_of (Host.Gains "store.lock") c.host

theorem keeps_readRendered (file : Path) : Keeps Console.Gains (readRendered file) := by
  refine keeps_get.bind fun c => ?_
  split
  · exact keeps_throw _
  · split
    · exact keeps_throw _
    · exact keeps_pure _

/-- A diff that is not to save anything makes no more than directories and a lock file. -/
theorem keeps_runDiff (s : Surroundings) (page : PageId) (file : Path) (rev : Option RevId)
    (json : Bool) : Keeps Console.Gains (runDiff s page file rev false json) := by
  have loads := keeps_onStore (s.store.keeps_loadSets page)
  refine (keeps_readRendered file).bind fun sets => ?_
  simp only [show_eq_pure, Bool.false_and, Bool.false_eq_true, if_false, pure_bind]
  split
  · exact (keeps_raise _).bind fun _ => loads.bind fun _ => keeps_pure _
  · exact loads.bind fun _ => keeps_pure _

end Command

end TemplateVars
