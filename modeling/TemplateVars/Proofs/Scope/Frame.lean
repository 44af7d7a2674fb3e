import TemplateVars.Proofs.OrderedMap
import TemplateVars.Proofs.Scope.Key
import TemplateVars.Proofs.SortedMap
import TemplateVars.Scope.Frame

/-!
# Rearranging a frame

Dropping arguments and giving them new keys rearranges a frame: no handle and no
text appears that was not there before, and a handle moves wherever its text
does.
-/

namespace TemplateVars

/-- No position is greater than an argument can have. -/
def Key.InRange : Key → Prop
  | .numbered n => n ≤ maxPosition
  | .named _ => True

theorem Key.inRange_parse (name : String) : (parse name).InRange := by
  cases key : parse name with
  | numbered n => exact (parse_eq_numbered.1 key).2
  | named name => trivial

namespace Frame

section Lookups

variable (f : Frame) (key other : Key)

@[simp]
theorem ref?_insert (ref : NodeRef) :
    (f.insert key ref).ref? other = if other = key then some ref else f.ref? other := by
  cases key <;> cases other <;> simp [insert, ref?]

@[simp]
theorem cached?_insert (ref : NodeRef) : (f.insert key ref).cached? other = f.cached? other := by
  cases key <;> cases other <;> rfl

@[simp]
theorem ref?_keepText (text : String) : (f.keepText key text).ref? other = f.ref? other := by
  cases key <;> cases other <;> rfl

@[simp]
theorem cached?_keepText (text : String) :
    (f.keepText key text).cached? other = if other = key then some text else f.cached? other := by
  cases key <;> cases other <;> simp [keepText, cached?]

@[simp]
theorem ref?_erase : (f.erase key).ref? other = if other = key then none else f.ref? other := by
  cases key <;> cases other <;> simp [erase, ref?]

@[simp]
theorem cached?_erase :
    (f.erase key).cached? other = if other = key then none else f.cached? other := by
  cases key <;> cases other <;> simp [erase, cached?]

@[simp]
theorem parent_insert (ref : NodeRef) : (f.insert key ref).parent = f.parent := by
  cases key <;> rfl

@[simp]
theorem parent_keepText (text : String) : (f.keepText key text).parent = f.parent := by
  cases key <;> rfl

@[simp]
theorem parent_erase : (f.erase key).parent = f.parent := by
  cases key <;> rfl

end Lookups

/-- Each text is that of an argument that is bound. -/
def TextsBound (f : Frame) : Prop := ∀ key, (f.cached? key).isSome → (f.ref? key).isSome

/-- Every handle goes with its text to a new key, or both are dropped. -/
structure Rearranges (f f' : Frame) (move : Key → Option Key) : Prop where
  ref?_iff : ∀ key ref, f'.ref? key = some ref ↔
    ∃ old, f.ref? old = some ref ∧ move old = some key
  cached?_iff : ∀ key text, f'.cached? key = some text ↔
    ∃ old, f.cached? old = some text ∧ move old = some key
  parent_eq : f'.parent = f.parent
  inRange : ∀ old key, move old = some key → old.InRange → key.InRange

theorem Rearranges.refl (f : Frame) : f.Rearranges f some where
  ref?_iff := by simp
  cached?_iff := by simp
  parent_eq := rfl
  inRange := by
    rintro old _ ⟨⟩
    exact id

theorem Rearranges.trans {f g h : Frame} {move move' : Key → Option Key}
    (first : f.Rearranges g move) (second : g.Rearranges h move') :
    f.Rearranges h fun key => (move key).bind move' where
  ref?_iff := by
    intro key ref
    simp only [second.ref?_iff, first.ref?_iff, Option.bind_eq_some_iff]
    grind
  cached?_iff := by
    intro key text
    simp only [second.cached?_iff, first.cached?_iff, Option.bind_eq_some_iff]
    grind
  parent_eq := second.parent_eq.trans first.parent_eq
  inRange := by
    intro old key moved range
    rcases Option.bind_eq_some_iff.1 moved with ⟨middle, moved₁, moved₂⟩
    exact second.inRange middle key moved₂ (first.inRange old middle moved₁ range)

theorem Rearranges.congr {f f' : Frame} {move move' : Key → Option Key}
    (r : f.Rearranges f' move) (same : ∀ key, move key = move' key) : f.Rearranges f' move' :=
  funext same ▸ r

/-- Where a key goes that is not bound makes no difference. -/
theorem Rearranges.congr_of_bound {f f' : Frame} {move move' : Key → Option Key}
    (r : f.Rearranges f' move) (bound : f.TextsBound)
    (same : ∀ key, (f.ref? key).isSome → move key = move' key)
    (inRange : ∀ old key, move' old = some key → old.InRange → key.InRange) :
    f.Rearranges f' move' where
  ref?_iff := by
    intro key ref
    rw [r.ref?_iff]
    refine exists_congr fun old => and_congr_right fun found => ?_
    rw [same old (by simp [found])]
  cached?_iff := by
    intro key text
    rw [r.cached?_iff]
    refine exists_congr fun old => and_congr_right fun known => ?_
    rw [same old (bound old (by simp [known]))]
  parent_eq := r.parent_eq
  inRange := inRange

section Injective

variable {f f' : Frame} {move : Key → Option Key} {old key : Key}

theorem Rearranges.ref?_eq (r : f.Rearranges f' move)
    (injective : ∀ other, move other = some key → other = old) (moved : move old = some key) :
    f'.ref? key = f.ref? old := by
  apply Option.ext
  intro ref
  rw [r.ref?_iff]
  constructor
  · rintro ⟨other, found, moved'⟩
    rwa [← injective other moved']
  · intro found
    exact ⟨old, found, moved⟩

theorem Rearranges.cached?_eq (r : f.Rearranges f' move)
    (injective : ∀ other, move other = some key → other = old) (moved : move old = some key) :
    f'.cached? key = f.cached? old := by
  apply Option.ext
  intro text
  rw [r.cached?_iff]
  constructor
  · rintro ⟨other, known, moved'⟩
    rwa [← injective other moved']
  · intro known
    exact ⟨old, known, moved⟩

end Injective

theorem Rearranges.textsBound {f g : Frame} {move : Key → Option Key} (r : f.Rearranges g move)
    (bound : f.TextsBound) : g.TextsBound := by
  intro key cached
  rcases Option.isSome_iff_exists.1 cached with ⟨text, found⟩
  rcases (r.cached?_iff key text).1 found with ⟨old, before, moved⟩
  rcases Option.isSome_iff_exists.1 (bound old (by simp [before])) with ⟨ref, there⟩
  rw [(r.ref?_iff key ref).2 ⟨old, there, moved⟩]
  rfl

theorem rearranges_erase (f : Frame) (key : Key) :
    f.Rearranges (f.erase key) fun old => if old = key then none else some old where
  ref?_iff := by
    intro other ref
    grind [ref?_erase]
  cached?_iff := by
    intro other text
    grind [cached?_erase]
  parent_eq := parent_erase f key
  inRange := by
    intro old other moved
    split at moved
    · cases moved
    · cases moved
      exact id

/-- Dropping some names keeps all other keys. -/
theorem rearranges_foldl_erase (names : List String) (f : Frame) :
    f.Rearranges (names.foldl (fun g name => g.erase (.named name)) f)
      fun key => if key ∈ names.map .named then none else some key := by
  induction names generalizing f with
  | nil => simpa using Rearranges.refl f
  | cons name names ih =>
      refine ((f.rearranges_erase (.named name)).trans (ih (f.erase (.named name)))).congr ?_
      intro key
      by_cases first : key = .named name <;> simp [first]

end Frame

end TemplateVars
