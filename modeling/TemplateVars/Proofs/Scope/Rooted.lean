import TemplateVars.Proofs.Scope.Places

/-!
# The way up to the page

A frame is opened one step beneath a frame that is there. So the frame of the
page is the only one that no frame encloses, and whoever goes up from a frame
comes to the page after as many turns as the frame is deep. Nothing else bounds
this walk: it goes on for as long as there is an enclosing frame. What is looked
up upward is found in the first frame on the way that holds the name itself.
-/

namespace TemplateVars.Tree

variable {t t' : Tree} {id : FrameId} {f : Frame}

/--
The page is the only frame that no frame encloses; every other frame stands one
step beneath an older one.
-/
structure Rooted (t : Tree) : Prop where
  page : ∃ f, t.frame? root = some f ∧ f.depth = 0
  top_iff : ∀ id f, t.frame? id = some f → (f.parent = none ↔ id = root)
  enclosed : ∀ id f parent, t.frame? id = some f → f.parent = some parent →
    parent < id ∧ ∃ g, t.frame? parent = some g ∧ f.depth = g.depth + 1

theorem rooted_ofPage (title : String) (expander : Expander) : (ofPage title expander).Rooted where
  page := ⟨_, rfl, rfl⟩
  top_iff := by
    intro id f own
    cases id with
    | zero =>
        cases own
        exact ⟨fun _ => rfl, fun _ => rfl⟩
    | succ n => cases own
  enclosed := by
    intro id f parent own outer
    cases id with
    | zero =>
        cases own
        cases outer
    | succ n => cases own

theorem exists_frame_of_samePlaces (same : t.SamePlaces t') (own : t.frame? id = some f) :
    ∃ f', t'.frame? id = some f' ∧ f'.depth = f.depth ∧ f'.parent = f.parent := by
  have place := congrArg (·[id]?) same
  simp only [getElem?_places, own, Option.map_some] at place
  rcases Option.map_eq_some_iff.1 place with ⟨f', own', stands⟩
  rcases Prod.mk.inj stands with ⟨depth, parent⟩
  exact ⟨f', own', depth, parent⟩

theorem Rooted.of_samePlaces (rooted : t.Rooted) (same : t.SamePlaces t') : t'.Rooted where
  page := by
    rcases rooted.page with ⟨f, own, depth⟩
    rcases exists_frame_of_samePlaces same own with ⟨f', own', depth', -⟩
    exact ⟨f', own', depth'.trans depth⟩
  top_iff := by
    intro id f' own'
    rcases exists_frame_of_samePlaces (Eq.symm same) own' with ⟨f, own, -, parent⟩
    rw [← parent]
    exact rooted.top_iff id f own
  enclosed := by
    intro id f' parent own' outer'
    rcases exists_frame_of_samePlaces (Eq.symm same) own' with ⟨f, own, depth, outer⟩
    rcases rooted.enclosed id f parent own (outer.trans outer') with ⟨below, g, there, deeper⟩
    rcases exists_frame_of_samePlaces same there with ⟨g', there', depth', -⟩
    exact ⟨below, g', there', by rw [← depth, deeper, depth']⟩

/-- A frame that is opened comes last, one step beneath the frame that encloses it. -/
theorem exists_frame_of_push {parent : FrameId} {title : String} {args : Arguments}
    (ok : t.push parent title args = .ok (id, t')) :
    ∃ g f, t.frame? parent = some g ∧ f.depth = g.depth + 1 ∧ f.parent = some parent ∧
      ∀ other, t'.frame? other = if other = t.frames.size then some f else t.frame? other := by
  rw [push] at ok
  cases outer : t.frame? parent with
  | none =>
      rw [outer] at ok
      cases ok
  | some g =>
      rw [outer] at ok
      cases ok
      exact ⟨g, _, rfl, rfl, rfl, fun other => Array.getElem?_push⟩

theorem lt_size_of_frame? (own : t.frame? id = some f) : id < t.frames.size :=
  InPlace.isSome_frame?_iff.1 (by rw [own]; rfl)

theorem Rooted.push (rooted : t.Rooted) {parent : FrameId} {title : String} {args : Arguments}
    (ok : t.push parent title args = .ok (id, t')) : t'.Rooted := by
  rcases exists_frame_of_push ok with ⟨g, f, there, depth, outer, frames⟩
  -- the frames that were there stand where they stood
  have older {i : FrameId} {h : Frame} (own : t.frame? i = some h) : t'.frame? i = some h := by
    rw [frames, if_neg (Nat.ne_of_lt (lt_size_of_frame? own)), own]
  have cases_of {i : FrameId} {h : Frame} (own : t'.frame? i = some h) :
      (i = t.frames.size ∧ h = f) ∨ t.frame? i = some h := by
    rw [frames] at own
    split at own
    · rename_i new
      exact Or.inl ⟨new, (Option.some.inj own).symm⟩
    · exact Or.inr own
  rcases rooted.page with ⟨page, ofPage, top⟩
  have below : parent < t.frames.size := lt_size_of_frame? there
  refine ⟨⟨page, older ofPage, top⟩, fun i h own => ?_, fun i h p own enclosing => ?_⟩
  · rcases cases_of own with ⟨rfl, rfl⟩ | own
    · rw [outer]
      exact ⟨nofun, fun first => absurd (lt_size_of_frame? ofPage) (first ▸ Nat.lt_irrefl _)⟩
    · exact rooted.top_iff i h own
  · rcases cases_of own with ⟨rfl, rfl⟩ | own
    · cases outer.symm.trans enclosing
      exact ⟨below, g, older there, depth⟩
    · rcases rooted.enclosed i h p own enclosing with ⟨less, g', there', depth'⟩
      exact ⟨less, g', older there', depth'⟩

/-! ### The walk -/

/-- Where a walk up from a frame begins: at the frame, if it is there. -/
def start? (t : Tree) (id : FrameId) : Option FrameId := (t.frame? id).map fun _ => id

/--
What a walk comes by, from the frame it has come to. At each turn it lists the
frame and goes on to the one that encloses it; it ends where there is none.
-/
inductive Walks (t : Tree) : Option FrameId → List FrameId → Prop
  | done : Walks t none []
  | turn {id : FrameId} {ids : List FrameId} (rest : Walks t (t.parent? id) ids) :
      Walks t (some id) (id :: ids)

theorem Walks.unique {at? : Option FrameId} {ids ids' : List FrameId} (walks : t.Walks at? ids)
    (walks' : t.Walks at? ids') : ids' = ids := by
  induction walks generalizing ids' with
  | done =>
      cases walks'
      rfl
  | turn _ ih =>
      cases walks' with
      | turn rest' => rw [ih rest']

theorem start?_of_frame? (own : t.frame? id = some f) : t.start? id = some id := by
  rw [start?, own]
  rfl

theorem parent?_of_frame? (own : t.frame? id = some f) : t.parent? id = f.parent := by
  rw [parent?, own]
  rfl

theorem ancestors_page (own : t.frame? root = some f) (top : f.parent = none) :
    t.ancestors root = [root] := by
  rw [ancestors, own]
  simp only [top]

theorem ancestors_beneath {parent : FrameId} (own : t.frame? id = some f)
    (outer : f.parent = some parent) (below : parent < id) :
    t.ancestors id = id :: t.ancestors parent := by
  rw [ancestors, own]
  simp only [outer, if_pos below]

namespace Rooted

/--
What holds of the page and the way from it, and of a frame and the way from it
if it holds of the frame that encloses it, holds of all.
-/
theorem ancestors_induction {P : FrameId → Frame → List FrameId → Prop} (rooted : t.Rooted)
    (page : ∀ f, t.frame? root = some f → f.parent = none → f.depth = 0 → P root f [root])
    (beneath : ∀ id f parent g, t.frame? id = some f → f.parent = some parent → parent < id →
      f.depth = g.depth + 1 → P parent g (t.ancestors parent) → P id f (id :: t.ancestors parent))
    (own : t.frame? id = some f) : P id f (t.ancestors id) := by
  induction id using Nat.strongRecOn generalizing f with
  | ind id ih =>
      cases outer : f.parent with
      | none =>
          have top : id = root := (rooted.top_iff id f own).1 outer
          subst top
          rcases rooted.page with ⟨f', own', depth⟩
          cases own.symm.trans own'
          rw [ancestors_page own outer]
          exact page f own outer depth
      | some parent =>
          rcases rooted.enclosed id f parent own outer with ⟨below, g, there, deeper⟩
          rw [ancestors_beneath own outer below]
          exact beneath id f parent g own outer below deeper (ih parent below there)

theorem walks_ancestors (rooted : t.Rooted) (own : t.frame? id = some f) :
    t.Walks (some id) (t.ancestors id) := by
  refine rooted.ancestors_induction (P := fun id _ ids => t.Walks (some id) ids) ?_ ?_ own
  · intro f own top _
    refine .turn ?_
    rw [parent?_of_frame? own, top]
    exact .done
  · intro id f parent g own outer _ _ ih
    refine .turn ?_
    rw [parent?_of_frame? own, outer]
    exact ih

theorem length_ancestors (rooted : t.Rooted) (own : t.frame? id = some f) :
    (t.ancestors id).length = f.depth + 1 := by
  refine rooted.ancestors_induction (P := fun _ f ids => ids.length = f.depth + 1) ?_ ?_ own
  · intro f _ _ depth
    rw [depth]
    rfl
  · intro id f parent g _ _ _ deeper ih
    rw [deeper, List.length_cons, ih]

theorem descending_ancestors (rooted : t.Rooted) (own : t.frame? id = some f) :
    (t.ancestors id).Pairwise (· > ·) := by
  refine rooted.ancestors_induction (P := fun _ _ ids => ids.Pairwise (· > ·)) ?_ ?_ own
  · intro _ _ _ _
    exact List.pairwise_singleton ..
  · intro id f parent g _ _ below _ ih
    refine List.pairwise_cons.2 ⟨fun i listed => ?_, ih⟩
    exact Nat.lt_of_le_of_lt (le_of_mem_ancestors listed) below

theorem getLast?_ancestors (rooted : t.Rooted) (own : t.frame? id = some f) :
    (t.ancestors id).getLast? = some root := by
  refine rooted.ancestors_induction (P := fun _ _ ids => ids.getLast? = some root) ?_ ?_ own
  · intro _ _ _ _
    rfl
  · intro id f parent g _ _ _ _ ih
    rw [List.getLast?_cons, ih]
    rfl

theorem isSome_of_mem_ancestors (rooted : t.Rooted) (own : t.frame? id = some f) :
    ∀ i ∈ t.ancestors id, (t.frame? i).isSome := by
  refine rooted.ancestors_induction (P := fun _ _ ids => ∀ i ∈ ids, (t.frame? i).isSome) ?_ ?_ own
  · intro f own _ _
    rw [List.forall_mem_singleton, own]
    rfl
  · intro id f parent g own _ _ _ ih
    rw [List.forall_mem_cons, own]
    exact ⟨rfl, ih⟩

end Rooted

/-- The frames on the way from a frame up to the page. -/
structure Ascent (t : Tree) (id : FrameId) (f : Frame) (ids : List FrameId) : Prop where
  /-- The walk up from the frame comes to an end, and these are the frames that it lists. -/
  walks_iff : ∀ ids', t.Walks (t.start? id) ids' ↔ ids' = ids
  length_eq : ids.length = f.depth + 1
  descending : ids.Pairwise (· > ·)
  nodup : ids.Nodup
  isSome_frame? : ∀ i ∈ ids, (t.frame? i).isSome
  getLast?_eq : ids.getLast? = some root

theorem Rooted.ascent (rooted : t.Rooted) (own : t.frame? id = some f) :
    t.Ascent id f (t.ancestors id) where
  walks_iff := by
    intro ids'
    have walks := rooted.walks_ancestors own
    rw [start?_of_frame? own]
    constructor
    · exact walks.unique
    · rintro rfl
      exact walks
  length_eq := rooted.length_ancestors own
  descending := rooted.descending_ancestors own
  nodup := (rooted.descending_ancestors own).imp Nat.ne_of_gt
  isSome_frame? := rooted.isSome_of_mem_ancestors own
  getLast?_eq := rooted.getLast?_ancestors own

/-! ### What is found on the way -/

/-- The first of some frames that holds a name itself, and the key that it holds it under. -/
def Nearest (t : Tree) (name : String) (anyCase : Bool) (ids : List FrameId) (owner : FrameId)
    (key : Key) : Prop :=
  ∃ nearer farther, ids = nearer ++ owner :: farther ∧
    t.locateLocal owner name anyCase = some key ∧
    ∀ i ∈ nearer, t.locateLocal i name anyCase = none

theorem locateIn_eq_findSome? (t : Tree) (name : String) (anyCase : Bool) (ids : List FrameId) :
    t.locateIn name anyCase ids =
      ids.findSome? fun i => (t.locateLocal i name anyCase).map fun key => (i, key) := by
  induction ids with
  | nil => rfl
  | cons i ids ih =>
      rw [locateIn, List.findSome?_cons, ih]
      cases t.locateLocal i name anyCase <;> rfl

theorem locateIn_eq_some_iff {name : String} {anyCase : Bool} {ids : List FrameId}
    {owner : FrameId} {key : Key} :
    t.locateIn name anyCase ids = some (owner, key) ↔ t.Nearest name anyCase ids owner key := by
  rw [locateIn_eq_findSome?, List.findSome?_eq_some_iff]
  constructor
  · rintro ⟨nearer, i, farther, listed, located, others⟩
    rcases Option.map_eq_some_iff.1 located with ⟨key', own, same⟩
    cases same
    exact ⟨nearer, farther, listed, own, fun i passed => Option.map_eq_none_iff.1 (others i passed)⟩
  · rintro ⟨nearer, farther, listed, own, others⟩
    refine ⟨nearer, owner, farther, listed, by rw [own]; rfl, fun i passed => ?_⟩
    rw [others i passed]
    rfl

theorem locateIn_eq_none {name : String} {anyCase : Bool} {ids : List FrameId}
    (nowhere : ∀ i ∈ ids, t.locateLocal i name anyCase = none) :
    t.locateIn name anyCase ids = none := by
  rw [locateIn_eq_findSome?, List.findSome?_eq_none_iff]
  intro i listed
  rw [nowhere i listed]
  rfl

/-- To look a name up from a frame is to look it up in the nearest of some frames that has it. -/
structure AnswersNearest (t : Tree) (id : FrameId) (ids : List FrameId) : Prop where
  locate_iff : ∀ name anyCase owner key,
    t.locate id name anyCase true = some (owner, key) ↔ t.Nearest name anyCase ids owner key
  get_nearest : ∀ name anyCase owner key, t.Nearest name anyCase ids owner key →
    t.get id name anyCase true = t.get owner name anyCase false ∧
      (t.get owner name anyCase false).value.isSome
  get_nowhere : ∀ name anyCase, (∀ i ∈ ids, t.locateLocal i name anyCase = none) →
    t.get id name anyCase true = pure none

theorem Separate.answersNearest (separate : t.Separate) (id : FrameId) :
    t.AnswersNearest id (t.ancestors id) where
  locate_iff _ _ _ _ := by rw [locate, if_pos rfl, locateIn_eq_some_iff]
  get_nearest := by
    rintro name anyCase owner key ⟨nearer, farther, listed, own, others⟩
    have located : t.locate id name anyCase true = some (owner, key) := by
      rw [locate, if_pos rfl, locateIn_eq_some_iff]
      exact ⟨nearer, farther, listed, own, others⟩
    refine ⟨?_, ?_⟩
    · rw [get, located, get_own, own]
    · rw [isSome_get_iff separate, locate_own, own]
      rfl
  get_nowhere := by
    intro name anyCase nowhere
    rw [get, locate, if_pos rfl, locateIn_eq_none nowhere]

end TemplateVars.Tree
