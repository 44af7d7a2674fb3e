import TemplateVars.Json.Literal
import TemplateVars.Json.Value

/-!
# Writing JSON

A value is written either compactly, without any blank, or indented by two
blanks a level with every member and element on a line of its own.
-/

namespace TemplateVars.Json

/-- How a value is laid out. -/
inductive Layout where
  /-- Without blanks. -/
  | compact
  /-- One line for each member and element. -/
  | indented
  deriving DecidableEq

/-- What stands before a member or closing bracket at a depth. -/
def Layout.lineBreak : Layout → Nat → List Char
  | compact, _ => []
  | indented, depth => '\n' :: List.replicate (2 * depth) ' '

/-- What stands between a key and its value. -/
def Layout.colon : Layout → List Char
  | compact => [':']
  | indented => [':', ' ']

/-- What stands before a closing bracket at a depth; nothing does in an empty one. -/
def Layout.closing (layout : Layout) (depth : Nat) (empty : Bool) : List Char :=
  if empty then [] else layout.lineBreak depth

/-- What stands between two elements; nothing does behind the last. -/
def comma (last : Bool) : List Char := if last then [] else [',']

/-- A literal between quotes. -/
def quoted (literal : List Char) : List Char := '"' :: literal ++ ['"']

mutual

/-- The text of a value at a depth. -/
def render (layout : Layout) (depth : Nat) : Json → List Char
  | null => ['n', 'u', 'l', 'l']
  | bool true => ['t', 'r', 'u', 'e']
  | bool false => ['f', 'a', 'l', 's', 'e']
  | number literal => literal
  | string literal => quoted literal
  | array es =>
    '[' :: renderElements layout (depth + 1) es ++ layout.closing depth es.isEmpty ++ [']']
  | object ms =>
    '\x7b' :: renderMembers layout (depth + 1) ms ++ layout.closing depth ms.isEmpty ++ ['\x7d']

/-- The text of elements. -/
def renderElements (layout : Layout) (depth : Nat) : List Json → List Char
  | [] => []
  | e :: es =>
    layout.lineBreak depth ++ render layout depth e ++ comma es.isEmpty ++
      renderElements layout depth es

/-- The text of members. -/
def renderMembers (layout : Layout) (depth : Nat) : List (List Char × Json) → List Char
  | [] => []
  | (key, value) :: ms =>
    layout.lineBreak depth ++ quoted key ++ layout.colon ++ render layout depth value ++
      comma ms.isEmpty ++ renderMembers layout depth ms

end

/-- The text of a value. -/
def write (layout : Layout) (value : Json) : String := String.ofList (value.render layout 0)

/-! ### Building values -/

/-- The value of a text. -/
def ofString (s : String) : Json := string (Literal.encode s)

/-- The value of a natural number. -/
def ofNat (n : Nat) : Json := number (Nat.toDigits 10 n)

/-- The object with these members. -/
def ofMembers (members : List (String × Json)) : Json :=
  object (members.map fun m => (Literal.encode m.1, m.2))

/-- The value of an optional value. -/
def ofOption {α : Type} (f : α → Json) : Option α → Json
  | some a => f a
  | none => null

/-- Put a member before the first one with a greater key. -/
def insertMember (key : List Char) (value : Json) :
    List (List Char × Json) → List (List Char × Json)
  | [] => [(key, value)]
  | (k, v) :: rest =>
    if (Literal.decode? key).getD "" < (Literal.decode? k).getD "" then
      (key, value) :: (k, v) :: rest
    else (k, v) :: insertMember key value rest

mutual

/-- The same value with the members of every object in the order of their keys. -/
def sortMembers : Json → Json
  | array es => array (sortElements es)
  | object ms => object (sortObject ms)
  | j => j

/-- The same elements, each with sorted members. -/
def sortElements : List Json → List Json
  | [] => []
  | e :: es => sortMembers e :: sortElements es

/-- The same members in the order of their keys, each with sorted members. -/
def sortObject : List (List Char × Json) → List (List Char × Json)
  | [] => []
  | (k, v) :: ms => insertMember k (sortMembers v) (sortObject ms)

end

end TemplateVars.Json
