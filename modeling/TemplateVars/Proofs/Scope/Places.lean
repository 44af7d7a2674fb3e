import TemplateVars.Proofs.Scope.InPlace

/-!
# Frames stay where they are

Where a frame stands, that is how deep it is and which frame encloses it, is
settled when it is opened. Updates in place change what frames bind. Whatever
comes of them, and however far they get, all frames stand where they stood.
-/

namespace TemplateVars

namespace Frame

/-- Where a frame stands: how deep it is, and which frame encloses it. -/
def place (f : Frame) : Nat × Option FrameId := (f.depth, f.parent)

section Places

variable (f : Frame) (key : Key)

@[simp]
theorem place_insert (ref : NodeRef) : (f.insert key ref).place = f.place := by
  cases key <;> rfl

@[simp]
theorem place_keepText (text : String) : (f.keepText key text).place = f.place := by
  cases key <;> rfl

@[simp]
theorem place_erase : (f.erase key).place = f.place := by
  cases key <;> rfl

theorem place_shiftDown (removed : Nat) : (f.shiftDown removed).place = f.place := by
  simp only [shiftDown]
  split <;> rfl

theorem place_foldl_erase (names : List String) :
    (names.foldl (fun g name => g.erase (.named name)) f).place = f.place := by
  induction names generalizing f with
  | nil => rfl
  | cons name names ih => rw [List.foldl_cons, ih, place_erase]

theorem place_unset (name : String) (anyCase shift : Bool) :
    (f.unset name anyCase shift).1.place = f.place := by
  rw [unset]
  cases Key.parse name with
  | numbered n =>
      simp only
      split
      · rw [place_shiftDown, place_erase, place_erase]
      · rw [place_erase, place_erase]
  | named key => exact place_foldl_erase f _

end Places

end Frame

namespace Tree

variable {t t' : Tree} {id : FrameId} {f : Frame}

/-- Where the frames of a tree stand. -/
def places (t : Tree) : Array (Nat × Option FrameId) := t.frames.map Frame.place

/-- No frame has moved, and none has come or gone. -/
def SamePlaces (t t' : Tree) : Prop := t'.places = t.places

instance : IsPreorder Tree SamePlaces where
  refl _ := rfl
  trans _ _ _ first second := Eq.trans second first

theorem getElem?_places (t : Tree) (id : FrameId) :
    t.places[id]? = (t.frame? id).map Frame.place :=
  Array.getElem?_map

/-- To change the bindings of a frame is to leave all frames where they are. -/
theorem places_modify (t : Tree) {change : Frame → Frame} (nodes : Array Node)
    (stays : ∀ f, t.frame? id = some f → (change f).place = f.place) :
    ({ t with frames := t.frames.modify id change, nodes } : Tree).places = t.places := by
  apply Array.ext_getElem?
  intro other
  rw [places, places, Array.getElem?_map, Array.getElem?_map, Array.getElem?_modify]
  split
  · rename_i here
    subst here
    cases own : t.frames[id]? with
    | none => rfl
    | some f => exact congrArg some (stays f own)
  · rfl

end Tree

namespace InPlace

open TemplateVars.Action TemplateVars.Tree

variable {α : Type} {id target : FrameId}

theorem keeps_frame (id : FrameId) : Keeps SamePlaces (frame id) := by
  refine keeps_get.bind fun t => ?_
  cases t.frame? id with
  | none => exact keeps_throw _
  | some f => exact keeps_pure f

theorem keeps_modify {change : Tree → Tree} (same : ∀ t : Tree, t.SamePlaces (change t)) :
    Keeps SamePlaces (modify change : TreeAction Unit) :=
  same

/-- Bindings of a frame are changed where the frame stands. -/
theorem keeps_modifyFrame {change : Frame → Frame} (stays : ∀ f, (change f).place = f.place) :
    Keeps SamePlaces (modifyFrame id change) :=
  (keeps_frame id).bind fun _ => keeps_modify fun t => t.places_modify t.nodes fun f _ => stays f

theorem samePlaces_putNode (id : FrameId) (key : Key) (node : Node) (t : Tree) :
    t.SamePlaces (putNode id key node t) := by
  rw [putNode]
  split
  · rfl
  · exact t.places_modify _ fun f _ => f.place_insert key _

theorem keeps_bind (id : FrameId) (key : Key) (node : Node) (text : String) :
    Keeps SamePlaces (bind id key node text) := by
  refine (keeps_frame id).bind fun _ => ?_
  refine (keeps_modify (samePlaces_putNode id key node)).bind fun _ => keeps_modify fun t => ?_
  exact t.places_modify t.nodes fun f _ => f.place_keepText key text

theorem keeps_set (id : FrameId) (name : String) (node : Node) :
    Keeps SamePlaces (set id name node) :=
  keeps_get.bind fun _ => keeps_bind id _ node _

/-- What is left of a frame takes the place of the frame. -/
theorem keeps_unset (id : FrameId) (name : String) (anyCase shift : Bool) :
    Keeps SamePlaces (unset id name anyCase shift) := by
  intro t
  cases own : t.frame? id with
  | none =>
      rw [unset, run_frame_bind_of_missing own]
      exact refl_of SamePlaces t
  | some f =>
      rw [unset, run_frame_bind own]
      refine t.places_modify t.nodes fun g own' => ?_
      cases own.symm.trans own'
      exact f.place_unset name anyCase shift

theorem keeps_copy (source : FrameId × Key) (target : FrameId) (name : String) :
    Keeps SamePlaces (copy source target name) := by
  refine keeps_get.bind fun t => ?_
  cases t.node? source.1 source.2 with
  | none => exact keeps_throw _
  | some node => exact keeps_bind target _ node _

theorem keeps_copyAll (locate : Tree → String → Option (FrameId × Key)) (target : FrameId)
    (names : List String) : Keeps SamePlaces (copyAll locate target names) := by
  induction names with
  | nil => exact keeps_pure 0
  | cons name names ih =>
      refine keeps_get.bind fun t => ?_
      cases locate t name with
      | none => exact ih
      | some source =>
          exact (keeps_copy source target name).bind fun _ => ih.bind fun _ => keeps_pure _

theorem keeps_enclosing (id : FrameId) {act : FrameId → TreeAction Nat}
    (keeps : ∀ parent, Keeps SamePlaces (act parent)) : Keeps SamePlaces (enclosing id act) := by
  refine (keeps_frame id).bind fun f => ?_
  cases f.parent with
  | none => exact keeps_pure 0
  | some parent => exact keeps parent

theorem keeps_inherit (id : FrameId) (names : List String) (anyCase : Bool) :
    Keeps SamePlaces (inherit id names anyCase) :=
  keeps_enclosing id fun _ => keeps_copyAll _ id names

theorem keeps_returnTo (id : FrameId) (names : List String) (anyCase : Bool) :
    Keeps SamePlaces (returnTo id names anyCase) :=
  keeps_enclosing id fun parent => keeps_copyAll _ parent names

end InPlace

end TemplateVars
