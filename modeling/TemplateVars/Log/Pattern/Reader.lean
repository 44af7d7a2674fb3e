import TemplateVars.Log.Pattern.Class
import TemplateVars.Log.Pattern.Weight
import TemplateVars.Text.Letter

/-!
# Reading patterns

A pattern is read from its text from left to right. Flags can be set for what
follows in a group, as in `(?x) a b`, or for a group alone, as in `(?x: a b)`. A
text stands for a pattern only if it is well formed, not nested too deep, and
not too heavy.
-/

namespace TemplateVars.Pattern

/-- A part of a pattern that has been read. -/
structure Part where
  /-- What it matches. -/
  pattern : Pattern
  depth : Nat := 0
  /-- Whether it only sets flags. -/
  isDirective : Bool := false
  /-- Whether it asks for the words of all scripts, which are not known. -/
  isForeign : Bool := false

namespace Part

/-- The greatest depth that any of some parts has. -/
def deepest (parts : List Part) : Nat := parts.foldl (fun n p => Nat.max n p.depth) 0

/-- Parts in a row, given last first. -/
def inOrder (parts : List Part) : Part where
  pattern := Pattern.inOrder (parts.reverse.map (·.pattern))
  depth := if 2 ≤ parts.length then deepest parts + 1 else deepest parts
  isForeign := parts.any (·.isForeign)

/-- One of some parts, given last first. -/
def oneOf (parts : List Part) : Part where
  pattern := Pattern.oneOf (parts.reverse.map (·.pattern))
  depth := deepest parts + 1
  isForeign := parts.any (·.isForeign)

/-- A part a number of times. -/
def times (p : Part) (least : Nat) (most : Option Nat) : Part where
  pattern := p.pattern.times least most
  depth := p.depth + 1
  isForeign := p.isForeign && most != some 0

/-- A part in parentheses. -/
def inGroup (p : Part) (captures : Bool) : Part where
  pattern := if captures then group p.pattern else p.pattern
  depth := p.depth + 1
  isForeign := p.isForeign

end Part

/-! ### Single characters -/

/-- The pattern of a character. -/
def ofChar? (f : PatternFlags) (c : Char) : Option Pattern := (f.cased? (.only c)).map one

/-- The pattern of the dot. -/
def ofDot? (f : PatternFlags) : Option Pattern :=
  if !f.allScripts then none
  else if f.dotEndsLines then some (one .all)
  else if f.returns then some (one ((CharSet.only '\n').union (.only '\r')).complement)
  else some (one (CharSet.only '\n').complement)

/-- The part that a sign stands for. -/
def ofSign? (f : PatternFlags) : Sign → Option Part
  | .char c => (ofChar? f c).map fun pattern => { pattern }
  | .set s => some { pattern := one s }
  | .look condition =>
    some { pattern := look condition, isForeign := condition.concernsWords && f.allScripts }

/-! ### Repetition -/

/-- Read a number of times; blanks around it make no difference. -/
def readCount (f : PatternFlags) (cs : List Char) : Option (Nat × List Char) :=
  let (digits, rest) := f.takeAll Char.isDigit (Text.dropBlanks cs)
  let n := Text.valueOf 10 digits
  if digits.isEmpty || Text.maxWord32 < n then none else some (n, Text.dropBlanks rest)

/-- Read how often a part is repeated, behind the brace that opens this. -/
def readTimes (f : PatternFlags) (cs : List Char) : Option (Nat × Option Nat × List Char) := do
  let (least, rest) ← readCount f (f.skip cs)
  match rest with
  | '\x7d' :: rest => return (least, some least, rest)
  | ',' :: rest =>
    match f.skip rest with
    | '\x7d' :: rest => return (least, none, rest)
    | rest =>
      match ← readCount f rest with
      | (most, '\x7d' :: rest) => if least ≤ most then return (least, some most, rest) else none
      | _ => none
  | _ => none

/-- Drop the sign of being content with less: it does not count for whether a text matches. -/
def dropLazy : List Char → List Char
  | '?' :: rest => rest
  | rest => rest

/-! ### Groups -/

/-- What a group starts with. -/
inductive GroupStart where
  /-- The start of a group that keeps what it matches, maybe with a name. -/
  | capturing (name : Option (List Char))
  /-- The start of a group with flags of its own. -/
  | flagged (flags : PatternFlags)
  /-- Flags for what follows, and no group. -/
  | directive (flags : PatternFlags)

namespace GroupStart

/-- Read flags, given the characters read so far, up to the colon or the parenthesis behind them. -/
def readFlags (f : PatternFlags) (before : List Char) :
    List Char → Option (GroupStart × List Char)
  | [] => none
  | ':' :: rest => if before.head? = some '-' then none else some (flagged f, rest)
  | ')' :: rest =>
    if before.isEmpty || before.head? = some '-' then none else some (directive f, rest)
  | '-' :: rest => if before.contains '-' then none else readFlags f ('-' :: before) rest
  | c :: rest => do
    if before.contains c then none
    else readFlags (← f.set? (!before.contains '-') c) (c :: before) rest

/-- Whether a name may go on with a character. -/
def isNameChar (c : Char) : Bool :=
  Text.isLetterOrNumber c || c = '_' || c = '.' || c = '[' || c = ']'

/-- Read a name up to the bracket that closes it. -/
def readName (cs : List Char) : Option (GroupStart × List Char) :=
  match cs.span (· ≠ '>') with
  | (first :: more, '>' :: rest) =>
    if (Text.isLetter first || first = '_') && more.all isNameChar then
      some (capturing (some (first :: more)), rest)
    else none
  | _ => none

/-- Read the start of a group behind its parenthesis; none looks ahead or back. -/
def read (f : PatternFlags) (cs : List Char) : Option (GroupStart × List Char) :=
  match f.skip cs with
  | '?' :: '<' :: '=' :: _ | '?' :: '<' :: '!' :: _ => none
  | '?' :: '<' :: rest | '?' :: 'P' :: '<' :: rest => readName rest
  | '?' :: rest => readFlags f [] rest
  | rest => some (capturing none, rest)

end GroupStart

/-- A group that is being read. -/
structure OpenGroup where
  flags : PatternFlags := {}
  /-- Whether it keeps what it matches. -/
  captures : Bool := false
  /-- The options that are complete, last first. -/
  options : List Part := []
  /-- The parts of the current option, last first. -/
  parts : List Part := []

namespace OpenGroup

/-- Add a part. -/
def add (g : OpenGroup) (p : Part) : OpenGroup := { g with parts := p :: g.parts }

/-- Start the next option. -/
def next (g : OpenGroup) : OpenGroup :=
  { g with options := Part.inOrder g.parts :: g.options, parts := [] }

/-- What has been read. -/
def content (g : OpenGroup) : Part :=
  if g.options.isEmpty then Part.inOrder g.parts
  else Part.oneOf (Part.inOrder g.parts :: g.options)

/-- The group as a part. -/
def close (g : OpenGroup) : Part := g.content.inGroup g.captures

/-- Repeat the last part, which must be there and not just set flags. -/
def repeatLast? (g : OpenGroup) (least : Nat) (most : Option Nat) : Option OpenGroup :=
  match g.parts with
  | [] => none
  | p :: rest =>
    if p.isDirective then none else some { g with parts := p.times least most :: rest }

end OpenGroup

/-! ### Whole patterns -/

/-- How far the reading of a pattern has come. -/
structure Reading where
  flags : PatternFlags := {}
  names : List (List Char) := []
  /-- The groups around the innermost one. -/
  outer : List OpenGroup := []
  /-- The innermost group. -/
  inner : OpenGroup := {}

namespace Reading

/-- Add a part to the innermost group. -/
def add (r : Reading) (p : Part) : Reading := { r with inner := r.inner.add p }

/-- Open a group; no two have one name. -/
def enter (r : Reading) (start : GroupStart) : Option Reading :=
  let opened : Reading := { r with
    outer := r.inner :: r.outer
    inner := { flags := r.flags } }
  match start with
  | .directive flags => some { r.add { pattern := empty, isDirective := true } with flags }
  | .flagged flags => some { opened with flags }
  | .capturing none => some { opened with inner.captures := true }
  | .capturing (some name) =>
    if r.names.contains name then none
    else some { opened with names := name :: r.names, inner.captures := true }

/-- Close the innermost group. -/
def leave (r : Reading) : Option Reading :=
  match r.outer with
  | [] => none
  | o :: outer => some { r with flags := r.inner.flags, outer, inner := o.add r.inner.close }

/-- Repeat the last part. -/
def repeatLast? (r : Reading) (least : Nat) (most : Option Nat) : Option Reading :=
  (r.inner.repeatLast? least most).map fun inner => { r with inner }

/-- Read on by one step, from a character that is not passed over. -/
def step (r : Reading) (c : Char) (rest : List Char) : Option (Reading × List Char) := do
  match c with
  | '(' =>
    let (start, rest) ← GroupStart.read r.flags rest
    return (← r.enter start, rest)
  | ')' => return (← r.leave, rest)
  | '|' => return ({ r with inner := r.inner.next }, rest)
  | '?' => return (← r.repeatLast? 0 (some 1), dropLazy rest)
  | '*' => return (← r.repeatLast? 0 none, dropLazy rest)
  | '+' => return (← r.repeatLast? 1 none, dropLazy rest)
  | '\x7b' =>
    let (least, most, rest) ← readTimes r.flags rest
    return (← r.repeatLast? least most, dropLazy (r.flags.skip rest))
  | '[' =>
    let (s, depth, rest) ← Bracket.read r.flags rest
    return (r.add { pattern := one s, depth }, rest)
  | '\\' =>
    let (sign, rest) ← Sign.read r.flags rest
    return (r.add (← ofSign? r.flags sign), rest)
  | '.' => return (r.add { pattern := ← ofDot? r.flags }, rest)
  | '^' =>
    let condition := if r.flags.lines then .lineStart r.flags.returns else .textStart
    return (r.add { pattern := look condition }, rest)
  | '$' =>
    let condition := if r.flags.lines then .lineEnd r.flags.returns else .textEnd
    return (r.add { pattern := look condition }, rest)
  | c => return (r.add { pattern := ← ofChar? r.flags c }, rest)

/-- Read to the end, in at most so many steps; all groups must be closed there. -/
def run : Nat → Reading → List Char → Option Part
  | 0, _, _ => none
  | left + 1, r, cs =>
    match r.flags.skip cs with
    | [] => if r.outer.isEmpty then some r.inner.content else none
    | c :: rest => do
      let (r, rest) ← r.step c rest
      run left r rest

end Reading

/-- How deep a pattern may be nested. -/
def maxDepth : Nat := 250

/-- The pattern that a text stands for, if it stands for one. -/
def read? (s : String) : Option Pattern :=
  match Reading.run (s.length + 1) {} s.toList with
  | some p =>
    if p.depth ≤ maxDepth ∧ !p.isForeign ∧ p.pattern.isLight then some p.pattern else none
  | none => none

end TemplateVars.Pattern
