import TemplateVars.Log.Pattern

/-!
# Matching

Where the matches of a pattern lead: for each position of a text, the positions
at which a match that starts there can end. The table of a pattern is made of
the tables of its parts, and that of a repetition by repeated squaring, so the
time that it takes does not depend on how repetitions are nested.
-/

namespace TemplateVars

/-- For each position of a text, other positions, as the bits of a number. -/
structure Leads where
  /-- The positions, for each position in order. -/
  rows : List Nat

namespace Leads

/-- The table over some number of positions whose rows are given by a function. -/
def ofRows (size : Nat) (row : Nat → Nat) : Leads := ⟨(List.range size).map row⟩

/-- Every position leads to itself where a condition holds. -/
def stayWhere (size : Nat) (holds : Nat → Bool) : Leads :=
  ofRows size fun i => if holds i then 1 <<< i else 0

/-- Every position leads to itself. -/
def stay (size : Nat) : Leads := stayWhere size fun _ => true

/-- The union of the rows that a number names by its bits. -/
def gather : Nat → List Nat → Nat
  | 0, _ | _, [] => 0
  | row, r :: rest => (if row % 2 = 1 then r else 0) ||| gather (row / 2) rest

/-- One step and then another. -/
def comp (a b : Leads) : Leads := ⟨a.rows.map fun row => gather row b.rows⟩

/-- Either step. -/
def or (a b : Leads) : Leads := ⟨List.zipWith (· ||| ·) a.rows b.rows⟩

/-- So many steps. -/
def power (a : Leads) (count : Nat) : Leads :=
  if count = 0 then stay a.rows.length
  else
    let half := a.power (count / 2)
    if count % 2 = 1 then (half.comp half).comp a else half.comp half
termination_by count

end Leads

namespace Look

/-- Whether the character at a position belongs to a word. -/
def isWordAt (text : List Char) (i : Nat) : Bool := text[i]?.any CharSet.wordChars.accepts

/-- Whether the character before a position belongs to a word. -/
def isWordBefore (text : List Char) (i : Nat) : Bool := 0 < i && isWordAt text (i - 1)

/-- Whether a certain character stands before a position. -/
def isBefore (c : Char) (text : List Char) (i : Nat) : Bool := 0 < i && text[i - 1]? == some c

/-- Whether a condition holds at a position. -/
def holds (text : List Char) (i : Nat) : Look → Bool
  | textStart => i = 0
  | textEnd => i = text.length
  | lineStart false => i = 0 || isBefore '\n' text i
  | lineStart true =>
    i = 0 || isBefore '\n' text i || isBefore '\r' text i && text[i]? != some '\n'
  | lineEnd false => i = text.length || text[i]? == some '\n'
  | lineEnd true =>
    i = text.length || text[i]? == some '\r' || text[i]? == some '\n' && !isBefore '\r' text i
  | wordEdge => isWordBefore text i != isWordAt text i
  | noWordEdge => isWordBefore text i == isWordAt text i
  | wordStart => !isWordBefore text i && isWordAt text i
  | wordEnd => isWordBefore text i && !isWordAt text i
  | noWordBefore => !isWordBefore text i
  | noWordAfter => !isWordAt text i

end Look

namespace Pattern

/--
Where the matches of a pattern lead in a text. As a match never ends before it
starts, more optional repetitions than the text has characters add nothing.
-/
def leads (text : List Char) : Pattern → Leads
  | empty => .stay (text.length + 1)
  | one chars =>
    .ofRows (text.length + 1) fun i => if text[i]?.any chars.accepts then 1 <<< (i + 1) else 0
  | look condition => .stayWhere (text.length + 1) fun i => condition.holds text i
  | seq p q => (p.leads text).comp (q.leads text)
  | alt p q => (p.leads text).or (q.leads text)
  | repeated p least most =>
    let once := p.leads text
    let more := Nat.min ((most.map (· - least)).getD text.length) text.length
    (once.power least).comp ((once.or (.stay (text.length + 1))).power more)
  | group p => p.leads text

/-- Whether a pattern matches anywhere in a text. -/
def occursIn (p : Pattern) (text : String) : Bool := (p.leads text.toList).rows.any (· ≠ 0)

end Pattern

end TemplateVars
