import TemplateVars.Text.Blank
import TemplateVars.Text.LowerCase.Table

/-!
# Lower-casing a text

Unicode's full lower-case mapping without a locale. One character maps to one
character, with two exceptions: a capital I with a dot becomes an i and a
combining dot, and a capital sigma that ends a word becomes a final sigma. A
sigma ends a word when a cased letter stands before it and none after it,
case-ignorable characters aside.
-/

namespace TemplateVars.Text

/-- Whether a character is a cased letter. -/
def isCased (c : Char) : Bool := inRanges casedRanges c

/-- Whether a character is passed over when the letters of a word are looked for. -/
def isCaseIgnorable (c : Char) : Bool := inRanges caseIgnorableRanges c

/-- The lower-case form of a code point within a run that covers it. -/
def CaseRun.lower? (r : CaseRun) (n : Nat) : Option Nat :=
  if r.first ≤ n ∧ n ≤ r.last ∧ (n - r.first) % r.step = 0 then some (r.image + (n - r.first))
  else none

/-- The lower-case form of a character that stands alone, where it is one character. -/
def lowerChar (c : Char) : Char :=
  match lowerRuns.findSome? (·.lower? c.toNat) with
  | some n => Char.ofNat n
  | none => c

/-- Whether the first character that is not passed over is a cased letter. -/
def meetsCased (cs : List Char) : Bool :=
  match cs.dropWhile isCaseIgnorable with
  | [] => false
  | c :: _ => isCased c

/-- Lower-case a text, given the characters before it in reverse. -/
def lowerFrom (before : List Char) : List Char → List Char
  | [] => []
  | c :: rest =>
    let here :=
      if c = 'Σ' then
        if meetsCased before && !meetsCased rest then ['ς'] else ['σ']
      else if c = 'İ' then ['i', '\u0307']
      else [lowerChar c]
    here ++ lowerFrom (c :: before) rest

/-- The lower-case form of a text. -/
def lower (s : String) : String := String.ofList (lowerFrom [] s.toList)

end TemplateVars.Text
