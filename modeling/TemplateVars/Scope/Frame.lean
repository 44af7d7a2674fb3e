import TemplateVars.OrderedMap
import TemplateVars.Scope.Key
import TemplateVars.SortedMap
import TemplateVars.Text.LowerCase

/-!
# Scope frames

A frame is the scope of one template invocation. It binds numbered arguments in
the order of their positions and named arguments in the order they came in.
Each argument has a handle on its node. Texts that are known already are kept
in tables of their own, so whatever moves or drops an argument has to move or
drop its text as well.
-/

namespace TemplateVars

/-- The place of a frame in its tree. -/
abbrev FrameId := Nat

/-- A handle on a node: whoever holds it sees later changes of that node. -/
abbrev NodeRef := Nat

/-- A bound argument. -/
structure Binding where
  node : NodeRef
  /-- The text of the node, once it is known. -/
  cached? : Option String
  deriving DecidableEq

/-- The scope of one template invocation. -/
structure Frame where
  depth : Nat
  /-- The enclosing frame; the page itself has none. -/
  parent : Option FrameId
  title : String
  /-- The handles of numbered arguments. -/
  numbered : SortedMap Nat NodeRef := ∅
  /-- The handles of named arguments. -/
  named : OrderedMap String NodeRef := ∅
  /-- The texts of numbered arguments, as far as they are known. -/
  numberedTexts : SortedMap Nat String := ∅
  /-- The texts of named arguments, as far as they are known. -/
  namedTexts : OrderedMap String String := ∅

namespace Frame

/-- The handle that is bound at a key. -/
def ref? (f : Frame) : Key → Option NodeRef
  | .numbered n => f.numbered.find? n
  | .named name => f.named.find? name

/-- The text that is known for a key. -/
def cached? (f : Frame) : Key → Option String
  | .numbered n => f.numberedTexts.find? n
  | .named name => f.namedTexts.find? name

/-- What is bound at a key. -/
def binding? (f : Frame) (key : Key) : Option Binding :=
  (f.ref? key).map fun node => { node, cached? := f.cached? key }

/-- Bind a handle at a key. -/
def insert (f : Frame) (key : Key) (node : NodeRef) : Frame :=
  match key with
  | .numbered n => { f with numbered := f.numbered.insert n node }
  | .named name => { f with named := f.named.insert name node }

/-- Keep the text of a key. -/
def keepText (f : Frame) (key : Key) (text : String) : Frame :=
  match key with
  | .numbered n => { f with numberedTexts := f.numberedTexts.insert n text }
  | .named name => { f with namedTexts := f.namedTexts.insert name text }

/-- Drop what is bound at a key, together with its text. -/
def erase (f : Frame) : Key → Frame
  | .numbered n =>
    { f with numbered := f.numbered.erase n, numberedTexts := f.numberedTexts.erase n }
  | .named name =>
    { f with named := f.named.erase name, namedTexts := f.namedTexts.erase name }

/-- Names that spell like `name` when case does not count, in the order they came in. -/
def spellings (f : Frame) (name : String) : List String :=
  let folded := Text.lower name
  f.named.keys.filter fun k => Text.lower k == folded

/--
The key under which a frame holds a name: its own key first, then, for a
position, the digits as a name; with `anyCase` the last other spelling of a
name that is not all digits.
-/
def locate (f : Frame) (name : String) (anyCase : Bool) : Option Key :=
  let key := Key.parse name
  if (f.ref? key).isSome then some key
  else if (f.ref? (.named name)).isSome then some (.named name)
  else if anyCase && !Text.isDigits name then (f.spellings name).getLast?.map .named
  else none

/-- Move the entry of a position down by one, if there is one. -/
def stepDown {β : Type} (m : SortedMap Nat β) (n : Nat) : SortedMap Nat β :=
  match m.find? n with
  | some v => (m.erase n).insert (n - 1) v
  | none => m

/-- The new name of an argument whose name spells a position above `removed`. -/
def movedName? (removed : Nat) (name : String) : Option String :=
  match Key.position? name with
  | some n => if removed < n then some (toString (n - 1)) else none
  | none => none

/-- The name of an argument once position `removed` is closed up. -/
def closeUpName (removed : Nat) (name : String) : String := (movedName? removed name).getD name

/--
Move every binding above a position down by one. Handles and texts move in the
same order. Named arguments are gone through only if one of them has to move.
-/
def shiftDown (f : Frame) (removed : Nat) : Frame :=
  let moved := f.numbered.keys.filter (removed < ·)
  let f : Frame :=
    { f with
      numbered := moved.foldl stepDown f.numbered
      numberedTexts := moved.foldl stepDown f.numberedTexts }
  if f.named.keys.any fun name => (movedName? removed name).isSome then
    { f with
      named := f.named.mapKeys (closeUpName removed)
      namedTexts := f.namedTexts.mapKeys (closeUpName removed) }
  else f

/--
Remove what is bound under a name, and tell whether anything was. A position
is removed together with the same digits as a name, and `shift` closes the gap;
with `anyCase` every spelling of a name that is not all digits goes.
-/
def unset (f : Frame) (name : String) (anyCase shift : Bool) : Frame × Bool :=
  match Key.parse name with
  | .numbered n =>
    let bound := f.numbered.contains n || f.named.contains name
    let rest := (f.erase (.numbered n)).erase (.named name)
    (if shift then rest.shiftDown n else rest, bound)
  | .named key =>
    let targets :=
      if anyCase && !Text.isDigits key then f.spellings key
      else if f.named.contains key then [key]
      else []
    (targets.foldl (fun g k => g.erase (.named k)) f, !targets.isEmpty)

end Frame

end TemplateVars
