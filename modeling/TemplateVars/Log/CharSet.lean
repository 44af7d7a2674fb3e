/-!
# Sets of characters

Sets of code points, kept as closed ranges in order, no two of which touch. So
a set is written in one way only, and how many ranges it takes can be counted.
-/

namespace TemplateVars

/-- A set of code points. -/
structure CharSet where
  /-- Its ranges, with both ends. -/
  ranges : List (Nat × Nat) := []
  deriving DecidableEq

namespace CharSet

/-- The last code point. -/
def lastCode : Nat := 0x10FFFF

/-- The last code point of ASCII. -/
def lastAscii : Nat := 0x7F

/-- Whether a code point lies in one of the ranges. -/
def covers (ranges : List (Nat × Nat)) (n : Nat) : Bool := ranges.any fun r => r.1 ≤ n && n ≤ r.2

/-- Whether a character is in a set. -/
def accepts (s : CharSet) (c : Char) : Bool := covers s.ranges c.toNat

/-- Add a range, joining it with those that it meets or touches. -/
def insertRange (r : Nat × Nat) : List (Nat × Nat) → List (Nat × Nat)
  | [] => [r]
  | s :: rest =>
    if r.2 + 1 < s.1 then r :: s :: rest
    else if s.2 + 1 < r.1 then s :: insertRange r rest
    else insertRange (Nat.min r.1 s.1, Nat.max r.2 s.2) rest

/-- The characters of two sets. -/
def union (s t : CharSet) : CharSet :=
  ⟨t.ranges.foldl (fun ranges r => insertRange r ranges) s.ranges⟩

/-- The set with some ranges, in any order. -/
def ofRanges (ranges : List (Nat × Nat)) : CharSet := union {} ⟨ranges⟩

/-- The characters from one to another. -/
def between (low high : Char) : CharSet := ⟨[(low.toNat, high.toNat)]⟩

/-- A single character. -/
def only (c : Char) : CharSet := between c c

/-- The character that a set consists of. -/
def single? (s : CharSet) : Option Char :=
  match s.ranges with
  | [(low, high)] => if low = high then some (Char.ofNat low) else none
  | _ => none

/-- Whether a set holds ASCII characters only. -/
def isAscii (s : CharSet) : Bool := s.ranges.all (·.2 ≤ lastAscii)

/-- What lies between the ranges, from a code point to a last one. -/
def gaps (last : Nat) : Nat → List (Nat × Nat) → List (Nat × Nat)
  | next, [] => if next ≤ last then [(next, last)] else []
  | next, r :: rest =>
    if next < r.1 then (next, r.1 - 1) :: gaps last (r.2 + 1) rest else gaps last (r.2 + 1) rest

/-- All others up to a last one. -/
def upToBut (last : Nat) (s : CharSet) : CharSet := ⟨gaps last 0 s.ranges⟩

/-- All other characters. -/
def complement (s : CharSet) : CharSet := upToBut lastCode s

/-- The characters that are in both sets. -/
def inter (s t : CharSet) : CharSet := (s.complement.union t.complement).complement

/-- The characters that are in the first set only. -/
def diff (s t : CharSet) : CharSet := s.inter t.complement

/-- The characters that are in one of the sets only. -/
def symmDiff (s t : CharSet) : CharSet := (s.diff t).union (t.diff s)

/-- A set with both cases of its ASCII letters. -/
def bothCases (s : CharSet) : CharSet :=
  let lowered := (s.inter (between 'A' 'Z')).ranges.map fun r => (r.1 + 32, r.2 + 32)
  let raised := (s.inter (between 'a' 'z')).ranges.map fun r => (r.1 - 32, r.2 - 32)
  (s.union ⟨lowered⟩).union ⟨raised⟩

/-! ### Sets with a name -/

/-- Every character. -/
def all : CharSet := ⟨[(0, lastCode)]⟩

/-- The ASCII digits. -/
def digits : CharSet := between '0' '9'

/-- The ASCII characters that words consist of. -/
def wordChars : CharSet :=
  ofRanges [(0x30, 0x39), (0x41, 0x5A), (0x5F, 0x5F), (0x61, 0x7A)]

/-- The ASCII blanks. -/
def blanks : CharSet := ofRanges [(0x09, 0x0D), (0x20, 0x20)]

/-- The sets of ASCII characters that have a name, and their ranges. -/
def nameTable : List (String × List (Nat × Nat)) := [
  ("alnum", [(0x30, 0x39), (0x41, 0x5A), (0x61, 0x7A)]),
  ("alpha", [(0x41, 0x5A), (0x61, 0x7A)]),
  ("ascii", [(0x00, 0x7F)]),
  ("blank", [(0x09, 0x09), (0x20, 0x20)]),
  ("cntrl", [(0x00, 0x1F), (0x7F, 0x7F)]),
  ("digit", [(0x30, 0x39)]),
  ("graph", [(0x21, 0x7E)]),
  ("lower", [(0x61, 0x7A)]),
  ("print", [(0x20, 0x7E)]),
  ("punct", [(0x21, 0x2F), (0x3A, 0x40), (0x5B, 0x60), (0x7B, 0x7E)]),
  ("space", [(0x09, 0x0D), (0x20, 0x20)]),
  ("upper", [(0x41, 0x5A)]),
  ("word", [(0x30, 0x39), (0x41, 0x5A), (0x5F, 0x5F), (0x61, 0x7A)]),
  ("xdigit", [(0x30, 0x39), (0x41, 0x46), (0x61, 0x66)])]

/-- The set with a name. -/
def named? (name : List Char) : Option CharSet :=
  (nameTable.find? fun entry => entry.1.toList == name).map fun entry => ofRanges entry.2

end CharSet

end TemplateVars
