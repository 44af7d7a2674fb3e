import TemplateVars.Log.CharSet

/-!
# Text patterns

Regular expressions that say which messages of a log are wanted. They are built
by functions that leave out what makes no difference: an empty part of a
sequence, a repetition that cannot repeat anything, and a choice between single
characters, which is a set of characters.
-/

namespace TemplateVars

/-- A condition on a place in a text. -/
inductive Look where
  | textStart
  | textEnd
  /-- A line starts; with the flag, lines may also end with a carriage return. -/
  | lineStart (returns : Bool)
  /-- A line ends; with the flag, lines may also end with a carriage return. -/
  | lineEnd (returns : Bool)
  /-- A word starts or ends. -/
  | wordEdge
  /-- No word starts or ends. -/
  | noWordEdge
  | wordStart
  | wordEnd
  /-- No word goes on up to here. -/
  | noWordBefore
  /-- No word goes on from here. -/
  | noWordAfter
  deriving DecidableEq

namespace Look

/-- Whether a condition is about words. -/
def concernsWords : Look → Bool
  | textStart | textEnd | lineStart _ | lineEnd _ => false
  | _ => true

end Look

/-- A regular expression. -/
inductive Pattern where
  | empty
  | one (chars : CharSet)
  /-- Matches the empty text where a condition holds. -/
  | look (condition : Look)
  | seq (first second : Pattern)
  | alt (first second : Pattern)
  /-- Matches a pattern at least and at most so many times. -/
  | repeated (p : Pattern) (least : Nat) (most : Option Nat)
  /-- Matches a pattern and keeps the text that it matched. -/
  | group (p : Pattern)

namespace Pattern

/-- A single character. -/
def char (c : Char) : Pattern := one (.only c)

/-- Matches nothing. -/
def never : Pattern := one {}

/-- The set of characters that a pattern matches, if that is all. -/
def set? : Pattern → Option CharSet
  | one chars => some chars
  | _ => none

/-- Whether a pattern matches nothing but empty texts. -/
def isStill : Pattern → Bool
  | empty | look _ => true
  | one _ => false
  | seq p q | alt p q => p.isStill && q.isStill
  | repeated p _ _ | group p => p.isStill

/-- One pattern and then another. -/
def followedBy : Pattern → Pattern → Pattern
  | empty, q => q
  | p, empty => p
  | p, q => seq p q

/-- Some patterns in a row. -/
def inOrder (ps : List Pattern) : Pattern := ps.foldl followedBy empty

/-- The patterns that a choice is between. -/
def options : Pattern → List Pattern
  | alt p q => p.options ++ q.options
  | p => [p]

/-- One of some patterns; a choice between characters, or between sets, is one set. -/
def oneOf (ps : List Pattern) : Pattern :=
  match ps.flatMap options with
  | [] => never
  | first :: rest =>
    match (first :: rest).mapM set? with
    | some sets =>
      if sets.all (·.single?.isSome) || sets.all (·.single?.isNone) then
        one (sets.foldl .union {})
      else rest.foldl alt first
    | none => rest.foldl alt first

/-- A pattern a number of times; what matches only empty texts need not match twice. -/
def times (p : Pattern) (least : Nat) (most : Option Nat) : Pattern :=
  let least := if p.isStill then Nat.min least 1 else least
  let most := if p.isStill then some (Nat.min (most.getD 1) 1) else most
  if least = 0 ∧ most = some 0 then empty
  else if least = 1 ∧ most = some 1 then p
  else repeated p least most

end Pattern

end TemplateVars
