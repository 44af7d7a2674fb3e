/-!
# TOML values

TOML documents as trees. A table remembers how it came about, for that settles
what may still be added to it. Of numbers with a fraction and of dates nothing
but their spelling is kept.
-/

namespace TemplateVars

/-- How a table of a TOML document came about. -/
inductive Toml.Origin where
  /-- By its own header, or as the document itself. -/
  | header
  /-- As a step of the header of another table. -/
  | implied
  /-- As a step of a dotted key. -/
  | dotted
  /-- Between braces, and so complete. -/
  | inline
  deriving DecidableEq

/-- A TOML value. -/
inductive Toml where
  | string (value : String)
  | integer (value : Int)
  /-- A number with a fraction or exponent, or one that is none, as written. -/
  | float (literal : List Char)
  | boolean (value : Bool)
  /-- A date, a time, or both, as written. -/
  | datetime (literal : List Char)
  | array (elements : List Toml)
  /-- A table with its members in order. -/
  | table (origin : Toml.Origin) (members : List (String × Toml))
  /-- A list of tables, each begun by a header. -/
  | tables (elements : List (List (String × Toml)))
  deriving Inhabited

namespace Toml

/-- The members of a table. -/
abbrev Members := List (String × Toml)

/-- Put a value in place of the one that a key has. -/
def replace (key : String) (value : Toml) (members : Members) : Members :=
  members.map fun m => if m.1 = key then (key, value) else m

/-- Change the last element of a list, if it has one. -/
def changeLast {α : Type} (change : α → Option α) : List α → Option (List α)
  | [] => none
  | [a] => (change a).map ([·])
  | a :: as => (changeLast change as).map (a :: ·)

/--
Add a value under a dotted key. The steps of the key may only lead through
tables that no header and no braces have begun, and the last step must be such
a table of dotted keys.
-/
def addDotted (value : Toml) : List String → Members → Option Members
  | [], _ => none
  | [key], members =>
    if (members.lookup key).isSome then none else some (members ++ [(key, value)])
  | key :: next :: path, members =>
    let add := addDotted value (next :: path)
    match members.lookup key with
    | none => (add []).map fun inner => members ++ [(key, .table .dotted inner)]
    | some (.table .dotted inner) =>
      (add inner).map fun inner => replace key (.table .dotted inner) members
    | some (.table .implied inner) =>
      if path.isEmpty then none
      else (add inner).map fun inner => replace key (.table .implied inner) members
    | some (.tables elements) =>
      if path.isEmpty then none
      else (changeLast add elements).map fun elements => replace key (.tables elements) members
    | some _ => none

/--
Begin the table of a header and fill it. The steps before the last lead through
tables of any kind but those between braces. A table can be begun once; one of
a list of tables is begun anew each time.
-/
def addSection (inList : Bool) (fill : Members → Option Members) :
    List String → Members → Option Members
  | [], _ => none
  | [key], members =>
    match inList, members.lookup key with
    | false, none => (fill []).map fun inner => members ++ [(key, .table .header inner)]
    | false, some (.table .implied inner) =>
      (fill inner).map fun inner => replace key (.table .header inner) members
    | true, none => (fill []).map fun inner => members ++ [(key, .tables [inner])]
    | true, some (.tables elements) =>
      (fill []).map fun inner => replace key (.tables (elements ++ [inner])) members
    | _, _ => none
  | key :: next :: path, members =>
    let add := addSection inList fill (next :: path)
    match members.lookup key with
    | none => (add []).map fun inner => members ++ [(key, .table .implied inner)]
    | some (.table .inline _) => none
    | some (.table origin inner) =>
      (add inner).map fun inner => replace key (.table origin inner) members
    | some (.tables elements) =>
      (changeLast add elements).map fun elements => replace key (.tables elements) members
    | some _ => none

/-- Add several values under dotted keys. -/
def addAll (entries : List (List String × Toml)) (members : Members) : Option Members :=
  entries.foldlM (fun members e => addDotted e.2 e.1 members) members

end Toml

end TemplateVars
