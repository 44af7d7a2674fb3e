/-!
# Paths

A path is kept as its parts between slashes, so that nothing of what somebody
wrote is lost: it is shown as it was written, slash by slash. What it leads to
is settled step by step along the parts, of which some are idle.
-/

namespace TemplateVars

/-- A path by its parts between slashes; the first part is empty if it starts with a slash. -/
structure Path where
  parts : List String
  deriving DecidableEq

namespace Path

/-- The parts of a text between slashes. -/
def splitSlashes : List Char → List (List Char)
  | [] => [[]]
  | c :: cs =>
    if c = '/' then [] :: splitSlashes cs
    else
      match splitSlashes cs with
      | [] => [[c]]
      | part :: parts => (c :: part) :: parts

/-- The path that a text stands for. -/
def ofText (text : String) : Path := ⟨(splitSlashes text.toList).map String.ofList⟩

/-- The text of a path. -/
def text (p : Path) : String := "/".intercalate p.parts

theorem splitSlashes_ne_nil (cs : List Char) : splitSlashes cs ≠ [] := by
  cases cs with
  | nil => simp [splitSlashes]
  | cons c cs =>
    unfold splitSlashes
    split
    · simp
    · split <;> simp

/-- Putting the slashes back between the parts of a text restores it. -/
theorem intercalate_splitSlashes (cs : List Char) :
    List.intercalate ['/'] (splitSlashes cs) = cs := by
  induction cs with
  | nil => rfl
  | cons c cs ih =>
    unfold splitSlashes
    split
    · rename_i slash
      rw [List.intercalate_cons_of_ne_nil (splitSlashes_ne_nil cs), ih, slash]
      rfl
    · cases parts : splitSlashes cs with
      | nil => exact absurd parts (splitSlashes_ne_nil cs)
      | cons part rest =>
        rw [parts] at ih
        cases rest with
        | nil => simpa using ih
        | cons next rest => simpa [List.intercalate_cons_cons] using ih

/-- A path is shown as it was written. -/
@[simp]
theorem text_ofText (s : String) : (ofText s).text = s := by
  apply String.toList_injective
  have parts : ((splitSlashes s.toList).map String.ofList).map String.toList =
      splitSlashes s.toList := by
    simp
  rw [text, ofText, String.toList_intercalate, parts]
  exact intercalate_splitSlashes s.toList

/-- Whether a path starts at the top of the disk. -/
def isAbsolute (p : Path) : Bool :=
  match p.parts with
  | "" :: _ :: _ => true
  | _ => false

/-- Whether a path ends in a slash, as only a directory's may. -/
def endsInSlash (p : Path) : Bool :=
  match p.parts.reverse with
  | "" :: _ :: _ => true
  | _ => false

/-- Whether a part leads nowhere. -/
def isIdle (part : String) : Bool := part = "" || part = "."

/-- The steps of a path that lead somewhere. -/
def steps (p : Path) : List String := p.parts.filter (!isIdle ·)

/-- The parts of a path up to the slashes at its end. -/
def beforeSlashes (p : Path) : List String := (p.parts.reverse.dropWhile (· = "")).reverse

/-- Add a name beneath a path; a slash at the end serves to set it off. -/
def child (p : Path) (name : String) : Path :=
  ⟨(if p.parts.getLast? = some "" then p.parts.dropLast else p.parts) ++ [name]⟩

/-- The parts, last one first, of the path that the last step starts from. -/
def outward (back : List String) : List String :=
  ((back.dropWhile isIdle).drop 1).dropWhile isIdle

/-- Each step outward leaves fewer parts. -/
theorem length_outward {back : List String} (h : back ≠ []) :
    (outward back).length < back.length := by
  have outer := (List.dropWhile_sublist (l := (back.dropWhile isIdle).drop 1) isIdle).length_le
  have inner := (List.dropWhile_sublist (l := back) isIdle).length_le
  have positive : 0 < back.length := List.length_pos_iff.mpr h
  rw [List.length_drop] at outer
  unfold outward
  omega

/-- The path that the last step of a path starts from; it is empty if that is where paths start. -/
def parent (p : Path) : Path := ⟨(outward p.parts.reverse).reverse⟩

/-- The extension of a file name: what follows its last dot, which may not come first. -/
def extension? (name : String) : Option String :=
  match (name.toList.reverse).span (· != '.') with
  | (ending, '.' :: stem) => if stem.isEmpty then none else some (String.ofList ending.reverse)
  | _ => none

/-- A file name without its extension. -/
def stem (name : String) : String :=
  match (name.toList.reverse).span (· != '.') with
  | (_, '.' :: stem) => if stem.isEmpty then name else String.ofList stem.reverse
  | _ => name

end Path

end TemplateVars
