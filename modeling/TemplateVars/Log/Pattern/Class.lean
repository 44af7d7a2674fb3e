import TemplateVars.Log.Pattern
import TemplateVars.Text.Blank
import TemplateVars.Text.Numeral

/-!
# Signs and bracketed sets

What stands for a character, a set of characters or a condition in a written
pattern: a sign behind a backslash, and a set in brackets. Sets are listed
character by character, by ranges and by names; they may contain sets in
brackets, and be combined by `&&`, `--` and `~~`, from left to right.

How a pattern is read depends on flags. With the flag for all scripts, digits,
blanks, letters and the case of letters would be those of all scripts. They are
not known here, so what asks for them is refused; without the flag they are
those of ASCII, and sets hold ASCII characters only.
-/

namespace TemplateVars

/-- How a pattern is read. -/
structure PatternFlags where
  /-- Whether the case of letters makes no difference. -/
  ignoreCase : Bool := false
  /-- Whether the signs for the ends of the text stand for those of a line. -/
  lines : Bool := false
  /-- Whether the dot stands for the end of a line too. -/
  dotEndsLines : Bool := false
  /-- Whether lines may end with a carriage return. -/
  returns : Bool := false
  /-- Whether blanks and comments are passed over. -/
  spaced : Bool := false
  /-- Whether the characters of all scripts are meant. -/
  allScripts : Bool := true

namespace PatternFlags

/-- Set the flag of a letter. -/
def set? (f : PatternFlags) (on : Bool) : Char → Option PatternFlags
  | 'i' => some { f with ignoreCase := on }
  | 'm' => some { f with lines := on }
  | 's' => some { f with dotEndsLines := on }
  | 'R' => some { f with returns := on }
  | 'x' => some { f with spaced := on }
  | 'u' => some { f with allScripts := on }
  | 'U' => some f
  | _ => none

/-- Drop blanks and comments, given whether a comment has started. -/
def dropSpace : Bool → List Char → List Char
  | _, [] => []
  | true, c :: rest => dropSpace (c ≠ '\n') rest
  | false, c :: rest =>
    if Text.isBlank c then dropSpace false rest
    else if c = '#' then dropSpace true rest
    else c :: rest

/-- What is left once blanks and comments are passed over, if they are. -/
def skip (f : PatternFlags) (cs : List Char) : List Char :=
  if f.spaced then dropSpace false cs else cs

/-- Take characters of a kind, at most so many, passing over what stands around them. -/
def take (f : PatternFlags) (kind : Char → Bool) : Nat → List Char → List Char × List Char
  | 0, cs => ([], f.skip cs)
  | n + 1, cs =>
    match f.skip cs with
    | [] => ([], [])
    | c :: rest =>
      if kind c then
        let (taken, rest) := f.take kind n rest
        (c :: taken, rest)
      else ([], c :: rest)

/-- Take all characters of a kind. -/
def takeAll (f : PatternFlags) (kind : Char → Bool) (cs : List Char) : List Char × List Char :=
  f.take kind cs.length cs

/-- The set that is meant by a listed one, as far as letters are concerned. -/
def cased? (f : PatternFlags) (s : CharSet) : Option CharSet :=
  if !f.ignoreCase then some s else if f.allScripts then none else some s.bothCases

/-- The set that is meant by the one in brackets. -/
def bracketed? (f : PatternFlags) (negated : Bool) (s : CharSet) : Option CharSet :=
  if f.allScripts then some (if negated then s.complement else s)
  else
    let meant := if negated then s.upToBut 0xFF else s
    if meant.isAscii then some meant else none

end PatternFlags

/-! ### Signs -/

/-- What a sign stands for. -/
inductive Sign where
  | char (c : Char)
  | set (s : CharSet)
  | look (condition : Look)

namespace Sign

/-- The character with a code in hexadecimal digits. -/
def ofCode? (digits : List Char) : Option Sign :=
  let n := Text.valueOf 16 digits
  if !digits.isEmpty ∧ n.isValidChar then some (char (Char.ofNat n)) else none

/-- Read a code, either in braces or with so many digits; two digits stand for a byte. -/
def readCode (f : PatternFlags) (width : Nat) (cs : List Char) : Option (Sign × List Char) :=
  match f.skip cs with
  | '\x7b' :: rest =>
    match f.takeAll (Text.isDigitOf 16) rest with
    | (digits, '\x7d' :: rest) => (ofCode? digits).map (·, f.skip rest)
    | _ => none
  | cs =>
    let (digits, rest) := f.take (Text.isDigitOf 16) width cs
    if digits.length < width then none
    else if width = 2 ∧ !f.allScripts ∧ CharSet.lastAscii < Text.valueOf 16 digits then none
    else (ofCode? digits).map (·, rest)

/-- The condition on words that a name in braces stands for. -/
def edgeNamed? (name : List Char) : Option Look :=
  if name = "start".toList then some .wordStart
  else if name = "end".toList then some .wordEnd
  else if name = "start-half".toList then some .noWordBefore
  else if name = "end-half".toList then some .noWordAfter
  else none

/-- Whether a name of a condition on words may contain a character. -/
def isEdgeLetter (c : Char) : Bool := c.isAlpha || c = '-'

/-- Read which condition on words is meant; braces without a name say how often it holds. -/
def readEdge (f : PatternFlags) (cs : List Char) : Option (Sign × List Char) :=
  match cs with
  | '\x7b' :: inner =>
    match f.skip inner with
    | [] => none
    | c :: _ =>
      if isEdgeLetter c then
        match f.takeAll isEdgeLetter inner with
        | (name, '\x7d' :: rest) => (edgeNamed? name).map fun condition => (look condition, rest)
        | _ => none
      else some (look .wordEdge, cs)
  | _ => some (look .wordEdge, cs)

/-- The set that a letter stands for; the others are known only where they are in ASCII. -/
def setOf? (f : PatternFlags) (c : Char) : Option CharSet :=
  if f.allScripts then none
  else if c = 'd' then some .digits
  else if c = 'w' then some .wordChars
  else if c = 's' then some .blanks
  else none

/-- Whether a character behind a backslash stands for itself. -/
def isPlain (c : Char) : Bool :=
  c.toNat ≤ CharSet.lastAscii && !c.isAlphanum && c != '<' && c != '>'

/-- Read what stands behind a backslash. -/
def read (f : PatternFlags) : List Char → Option (Sign × List Char)
  | [] => none
  | c :: rest =>
    if isPlain c then some (char c, rest)
    else
      match c with
      | 'x' => readCode f 2 rest
      | 'u' => readCode f 4 rest
      | 'U' => readCode f 8 rest
      | 'd' | 'D' | 's' | 'S' | 'w' | 'W' => (setOf? f c).map fun s => (set s, rest)
      | 'a' => some (char '\x07', rest)
      | 'f' => some (char '\x0c', rest)
      | 't' => some (char '\t', rest)
      | 'n' => some (char '\n', rest)
      | 'r' => some (char '\r', rest)
      | 'v' => some (char '\x0b', rest)
      | 'A' => some (look .textStart, rest)
      | 'z' => some (look .textEnd, rest)
      | 'b' => readEdge f rest
      | 'B' => some (look .noWordEdge, rest)
      | '<' => some (look .wordStart, rest)
      | '>' => some (look .wordEnd, rest)
      | _ => none

end Sign

/-! ### Sets in brackets -/

/-- How sets are combined. -/
inductive SetOperator where
  | inter
  /-- What is in the first only. -/
  | diff
  /-- What is in one only. -/
  | symmDiff

namespace SetOperator

/-- The operator that a doubled character stands for. -/
def ofChar? : Char → Option SetOperator
  | '&' => some inter
  | '-' => some diff
  | '~' => some symmDiff
  | _ => none

/-- Combine two sets. -/
def apply : SetOperator → CharSet → CharSet → CharSet
  | inter, s, t => s.inter t
  | diff, s, t => s.diff t
  | symmDiff, s, t => s.symmDiff t

end SetOperator

/-- A set that is being read, and how deep its parts are nested. -/
structure Bracket where
  /-- Whether all others are meant. -/
  negated : Bool := false
  /-- What stands before the last operator. -/
  before : Option (CharSet × Nat × SetOperator) := none
  /-- What has been listed since. -/
  listed : CharSet := {}
  /-- How many parts have been listed since. -/
  parts : Nat := 0
  depth : Nat := 0

namespace Bracket

/-- List one more part. -/
def add (b : Bracket) (s : CharSet) (depth : Nat) : Bracket :=
  { b with listed := b.listed.union s, parts := b.parts + 1, depth := Nat.max b.depth depth }

/-- List the characters of a set. -/
def list (f : PatternFlags) (b : Bracket) (s : CharSet) : Option Bracket :=
  (f.cased? s).map fun s => b.add s 0

/-- List the characters from one to another. -/
def listRange (f : PatternFlags) (b : Bracket) (low high : Char) : Option Bracket :=
  if low ≤ high ∧ (f.allScripts ∨ high.toNat ≤ CharSet.lastAscii) then b.list f (.between low high)
  else none

/-- List what a sign stands for. -/
def listSign (f : PatternFlags) (b : Bracket) : Sign → Option Bracket
  | .char c => b.listRange f c c
  | .set s => b.list f s
  | .look _ => none

/-- The set read so far and its depth. -/
def value (b : Bracket) : CharSet × Nat :=
  let depth := if 2 ≤ b.parts then b.depth + 1 else b.depth
  match b.before with
  | none => (b.listed, depth)
  | some (s, d, operator) => (operator.apply s b.listed, Nat.max d depth + 1)

/-- Go on behind an operator. -/
def operate (b : Bracket) (operator : SetOperator) : Bracket :=
  { negated := b.negated, before := some (b.value.1, b.value.2, operator) }

/-- The set that is meant, and its depth. -/
def close (f : PatternFlags) (b : Bracket) : Option (CharSet × Nat) :=
  (f.bracketed? b.negated b.value.1).map (·, b.value.2 + 1)

/--
Read what stands first: a sign for all others, and characters that stand for
themselves only there.
-/
def start (f : PatternFlags) (cs : List Char) : Option (Bracket × List Char) := do
  let (negated, cs) :=
    match f.skip cs with
    | '^' :: rest => (true, rest)
    | cs => (false, cs)
  let (dashes, cs) := f.takeAll (· = '-') cs
  let b ← dashes.foldlM (fun (b : Bracket) c => b.listRange f c c) { negated }
  match cs with
  | ']' :: rest =>
    if dashes.isEmpty then return (← b.listRange f ']' ']', f.skip rest) else return (b, cs)
  | _ => return (b, cs)

/-- Read a name between colons, behind the bracket; anything else is no name. -/
def readName : List Char → Option (Bool × CharSet × List Char)
  | ':' :: rest => do
    let (negated, rest) :=
      match rest with
      | '^' :: rest => (true, rest)
      | rest => (false, rest)
    match rest.span (· ≠ ':') with
    | (name, ':' :: ']' :: rest) => return (negated, ← CharSet.named? name, rest)
    | _ => none
  | _ => none

/-- The next character that counts, passing over blanks and the first sign of a comment. -/
def peek (f : PatternFlags) (cs : List Char) : Option Char :=
  if f.spaced then
    match Text.dropBlanks cs with
    | '#' :: rest => (Text.dropBlanks rest).head?
    | rest => rest.head?
  else cs.head?

/-- Read a sign or a character. -/
def readSign (f : PatternFlags) : List Char → Option (Sign × List Char)
  | [] => none
  | '\\' :: rest => Sign.read f rest
  | c :: rest => some (.char c, rest)

/-- Read a sign or a range; before a bracket or another dash, a dash makes no range. -/
def readPart (f : PatternFlags) (b : Bracket) (cs : List Char) : Option (Bracket × List Char) := do
  let (low, rest) ← readSign f cs
  let rest := f.skip rest
  match rest with
  | '-' :: more =>
    if peek f more = some ']' ∨ peek f more = some '-' then return (← b.listSign f low, rest)
    else
      let (high, rest) ← readSign f (f.skip more)
      match low, high with
      | .char low, .char high => return (← b.listRange f low high, rest)
      | _, _ => none
  | rest => return (← b.listSign f low, rest)

/-- Read on in a bracket, given those around it and the number of steps at most left. -/
def readOn (f : PatternFlags) :
    Nat → List Bracket → Bracket → List Char → Option (CharSet × Nat × List Char)
  | 0, _, _, _ => none
  | left + 1, outer, b, cs =>
    match f.skip cs with
    | [] => none
    | '[' :: rest =>
      match readName rest with
      | some (negated, s, rest) => do
        let s ← f.cased? s
        readOn f left outer (b.add (← f.bracketed? negated s) 0) rest
      | none => do
        let (inner, rest) ← start f rest
        readOn f left (b :: outer) inner rest
    | ']' :: rest => do
      let (s, depth) ← b.close f
      match outer with
      | [] => return (s, depth, rest)
      | o :: outer => readOn f left outer (o.add s depth) rest
    | c :: rest =>
      match if rest.head? = some c then SetOperator.ofChar? c else none with
      | some operator => readOn f left outer (b.operate operator) (rest.drop 1)
      | none => do
        let (b, rest) ← readPart f b (c :: rest)
        readOn f left outer b rest

/-- Read a set behind the bracket that opens it; the result has its depth too. -/
def read (f : PatternFlags) (cs : List Char) : Option (CharSet × Nat × List Char) := do
  let (b, rest) ← start f cs
  readOn f (rest.length + 1) [] b rest

end Bracket

end TemplateVars
