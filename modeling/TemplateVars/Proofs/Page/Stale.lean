import TemplateVars.Proofs.Page.Growth
import TemplateVars.Proofs.Page.Plan

/-!
# Plans that have become stale

A plan names the sets to delete and to update by identifiers that were loaded
at some time, and it may be applied to a record that has moved on. As long as
the identifiers that it knows still stand for the same names, it can do no more
than it was made for: it deletes sets whose names were loaded and are not
rendered, and rewrites sets whose names are rendered.
-/

namespace TemplateVars

namespace SetCollection

/-- Whether a collection, if there is one, has a set under a name. -/
def Holds (c? : Option SetCollection) (name : String) : Prop :=
  ∃ c, c? = some c ∧ ∃ s, c.sets.find? name = some s

/-- Whether a collection, if there is one, has a set under a name or one that is called so. -/
def Mentions (c? : Option SetCollection) (name : String) : Prop :=
  ∃ c, c? = some c ∧ ∃ key s, c.sets.find? key = some s ∧ (key = name ∨ s.name = name)

end SetCollection

namespace Plan

open SetCollection (Holds Mentions)

/--
What a plan from loaded sets to those of a render may make of a stored set: it
is deleted if its name was loaded and is not rendered; otherwise it keeps its
name, and it is left alone unless the render mentions the name.
-/
inductive MayTurn (loaded rendered : Option SetCollection) (s : StoredSet) :
    Option StoredSet → Prop where
  | deleted (known : Holds loaded s.name) (lacking : ¬Holds rendered s.name) :
      MayTurn loaded rendered s none
  | kept {s' : StoredSet} (named : s'.name = s.name)
      (changed : s' = s ∨ Mentions rendered s.name) : MayTurn loaded rendered s (some s')

/-- The names of two records agree on the identifiers that both use. -/
def SameNames (r q : PageRecord) : Prop :=
  ∀ id s t, r.sets.find? id = some s → q.sets.find? id = some t → s.name = t.name

theorem holds_toCollection {r : PageRecord} {name : String} :
    Holds (some r.toCollection) name ↔ r.HasName name := by
  constructor
  · rintro ⟨c, same, s, found⟩
    cases same
    rcases r.toCollection_cases name with ⟨id, t, stored, named, -⟩ | ⟨-, absent, -⟩
    · exact ⟨id, t, stored, named⟩
    · rw [absent] at found
      cases found
  · intro stored
    rcases r.toCollection_cases name with ⟨id, t, -, -, found, -⟩ | ⟨absent, -⟩
    · exact ⟨_, rfl, _, found⟩
    · exact absurd stored absent

theorem mayTurn_apply_between_toCollection {r q : PageRecord} (c : SetCollection)
    (below : q.IdsBelow) (same : SameNames r q) (now : Timestamp) {id : SetId} {s : StoredSet}
    (found : q.sets.find? id = some s) :
    MayTurn (some r.toCollection) (some c) s
      (((between (some r.toCollection) (some c)).apply now q).record.sets.find? id) := by
  rcases apply_stored below now found with ⟨deleted, gone⟩ | ⟨-, s', kept, named, -, changed⟩
  · rw [gone]
    rcases mem_deletes_between r c deleted with ⟨name, notRendered, ident⟩
    rcases r.toCollection_cases name with ⟨i, t, stored, rfl, -, known⟩ | ⟨-, -, unknown⟩
    · rw [ident] at known
      cases known
      have called := same id t s stored found
      refine .deleted (holds_toCollection.2 ⟨id, t, stored, called⟩) ?_
      rintro ⟨_, ⟨⟩, u, rendered⟩
      rw [← called, notRendered] at rendered
      cases rendered
    · rw [unknown] at ident
      cases ident
  · rw [kept]
    refine .kept named (changed.imp_right ?_)
    rintro (⟨t, planned, called⟩ | planned)
    · rcases mem_inserts_between r c planned with ⟨key, rendered, -⟩
      exact ⟨c, rfl, key, t, rendered, Or.inr called⟩
    · rcases Option.isSome_iff_exists.1 planned with ⟨e, planned⟩
      rcases find?_updates_between r c planned with ⟨u, stored, rendered⟩
      exact ⟨c, rfl, u.name, e.2, rendered, Or.inl (same id u s stored found)⟩

theorem MayTurn.mono {loaded loaded' rendered rendered' : Option SetCollection} {s : StoredSet}
    {after : Option StoredSet} (turn : MayTurn loaded rendered s after)
    (holds : ∀ name, Holds loaded name → Holds loaded' name)
    (lacks : ∀ name, Holds rendered' name → Holds rendered name)
    (mentions : ∀ name, Mentions rendered name → Mentions rendered' name) :
    MayTurn loaded' rendered' s after := by
  cases turn with
  | deleted known lacking => exact .deleted (holds _ known) fun held => lacking (lacks _ held)
  | kept named changed => exact .kept named (changed.imp_right (mentions _))

/-- While identifiers stand for the names they stood for, a stale plan does what it was made for. -/
theorem mayTurn_apply_between {loaded : Option PageRecord} {q : PageRecord} (below : q.IdsBelow)
    (same : ∀ r, loaded = some r → SameNames r q) (rendered : Option SetCollection)
    (now : Timestamp) {id : SetId} {s : StoredSet} (found : q.sets.find? id = some s) :
    MayTurn (loaded.map (·.toCollection)) rendered s
      (((between (loaded.map (·.toCollection)) rendered).apply now q).record.sets.find? id) := by
  -- nothing loaded or nothing rendered is planned for as an empty record or collection
  have holdsNothing (page : PageId) (name : String) :
      ¬Holds (some ({ pageId := page } : PageRecord).toCollection) name := by
    rw [holds_toCollection]
    rintro ⟨i, t, stored, -⟩
    cases stored
  have sameAsNothing (page : PageId) : SameNames { pageId := page } q := nofun
  cases loaded with
  | none =>
      cases rendered with
      | none =>
          refine (mayTurn_apply_between_toCollection (r := { pageId := 0 })
            { pageId := 0, revId := 0 } below (sameAsNothing 0) now found).mono ?_ nofun ?_
          · exact fun name held => absurd held (holdsNothing 0 name)
          · rintro name ⟨_, ⟨⟩, key, t, mentioned, -⟩
            cases mentioned
      | some c =>
          rw [Option.map_none, between_none_left]
          refine (mayTurn_apply_between_toCollection c below (sameAsNothing _) now found).mono ?_
            (fun _ held => held) (fun _ mentioned => mentioned)
          exact fun name held => absurd held (holdsNothing _ name)
  | some r =>
      cases rendered with
      | none =>
          rw [Option.map_some, between_none_right]
          refine (mayTurn_apply_between_toCollection _ below (same r rfl) now found).mono
            (fun _ held => held) nofun ?_
          rintro name ⟨_, ⟨⟩, key, t, mentioned, -⟩
          cases mentioned
      | some c => exact mayTurn_apply_between_toCollection c below (same r rfl) now found

end Plan

end TemplateVars
