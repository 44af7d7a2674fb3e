import TemplateVars.Text.Numeral

/-!
# Binding keys

A frame binds its arguments under keys of two kinds: positions and names. A
name is routed to a position exactly when it is the usual decimal form of a
32-bit number; every other name, `"07"` among them, stays a name.
-/

namespace TemplateVars

/-- Where a variable is bound within a frame. -/
inductive Key where
  | numbered (position : Nat)
  | named (name : String)
  deriving DecidableEq

namespace Key

/-- The greatest position an argument can have. -/
def maxPosition : Nat := Text.maxWord32

/-- The position that a name spells, if it is the usual form of one. -/
def position? (name : String) : Option Nat :=
  if Text.isCanonical name then
    let n := Text.valueOf 10 name.toList
    if n ≤ maxPosition then some n else none
  else none

/-- Route a variable name to its key. -/
def parse (name : String) : Key :=
  match position? name with
  | some n => .numbered n
  | none => .named name

end Key

end TemplateVars
