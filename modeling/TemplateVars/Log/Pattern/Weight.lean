import TemplateVars.Log.Pattern

/-!
# The weight of a pattern

How many bytes the automata take that would look for a pattern. There are two:
one reads a text forwards, byte by byte in UTF-8, the other backwards. A pattern
that needs more than ten mebibytes for either is refused, so this is worked out
without building them. Each state takes 32 bytes, and each way out of it more
where there can be several: 4 for a choice, 8 for a range of bytes.
-/

namespace TemplateVars

/-- A direction in which a text is read. -/
inductive Direction where
  | forwards
  | backwards
  deriving DecidableEq

/-- The bytes of a state. -/
def stateWeight : Nat := 32

/-- The bytes of a way out of a choice. -/
def choiceWeight : Nat := 4

/-- The bytes of a way out by a range of bytes. -/
def rangeWeight : Nat := 8

namespace CharSet

/-- A range of code points cut in two behind a code point. -/
def cutBehind (n : Nat) (r : Nat × Nat) : List (Nat × Nat) :=
  if r.1 ≤ n ∧ n < r.2 then [(r.1, n), (n + 1, r.2)] else [r]

/--
A range cut where its ends do not fill a block of some size, unless it lies in
one block or in ASCII.
-/
def cutAtBlocks (size : Nat) (r : Nat × Nat) : List (Nat × Nat) :=
  if r.1 / size = r.2 / size ∨ r.2 ≤ lastAscii then [r]
  else
    let first := (r.1 + size - 1) / size * size
    let last := (r.2 + 1) / size * size
    (if r.1 < first then [(r.1, first - 1)] else []) ++
      (if first < last then [(first, last - 1)] else []) ++
      (if last ≤ r.2 then [(last, r.2)] else [])

/-- The bytes of a code point in UTF-8. -/
def bytesOf (n : Nat) : List Nat :=
  if n < 0x80 then [n]
  else if n < 0x800 then [0xC0 + n / 64, 0x80 + n % 64]
  else if n < 0x10000 then [0xE0 + n / 4096, 0x80 + n / 64 % 64, 0x80 + n % 64]
  else [0xF0 + n / 262144, 0x80 + n / 4096 % 64, 0x80 + n / 64 % 64, 0x80 + n % 64]

/-- A set as sequences of ranges of bytes, each of which takes any byte of its range. -/
def byteRanges (s : CharSet) : List (List (Nat × Nat)) :=
  let scalars := (s.diff ⟨[(0xD800, 0xDFFF)]⟩).ranges
  let byLength := [0x7F, 0x7FF, 0xFFFF].foldl (fun rs n => rs.flatMap (cutBehind n)) scalars
  let blocks := [64, 4096, 262144].foldl (fun rs size => rs.flatMap (cutAtBlocks size)) byLength
  blocks.map fun r => (bytesOf r.1).zip (bytesOf r.2)

/-- The first elements of some lists, equal neighbours once, each with the lists behind it. -/
def branches {α : Type} [BEq α] (lists : List (List α)) : List (List (List α)) :=
  ((lists.filter (!·.isEmpty)).splitBy fun a b => a.head? == b.head?).map fun ls =>
    ls.map (·.drop 1)

/-- What is left of some lists behind a number of elements, for each way to get there. -/
def tails {α : Type} [BEq α] (lists : List (List α)) : Nat → List (List (List α))
  | 0 => [lists]
  | n + 1 => ((tails lists n).flatMap branches).eraseDups

/-- The states of a tree that reads some sequences, where equal parts are shared. -/
def treeWeight (sequences : List (List (Nat × Nat))) : Nat :=
  let nodes := ((List.range 4).flatMap (tails sequences)).eraseDups
  (nodes.filter (·.any (!·.isEmpty))).foldl
    (fun n node => n + stateWeight + rangeWeight * (branches node).length) stateWeight

/-- The states that read some sequences from their ends, where equal beginnings are shared. -/
def chainWeight (sequences : List (List (Nat × Nat))) : Nat :=
  let beginnings := sequences.flatMap fun s => (List.range s.length).map fun n => s.take (n + 1)
  2 * stateWeight + stateWeight * beginnings.eraseDups.length + choiceWeight * sequences.length

/-- The bytes of the states that read a character of a set. -/
def weight (direction : Direction) (s : CharSet) : Nat :=
  match s.single? with
  | some c => stateWeight * c.utf8Size
  | none =>
    if s.isAscii then 2 * stateWeight + rangeWeight * s.ranges.length
    else
      match direction with
      | .forwards => treeWeight s.byteRanges
      | .backwards => chainWeight s.byteRanges

end CharSet

namespace Pattern

/-! ### Words to choose from -/

/-- The characters that a pattern matches in a row, if that is all. -/
def literal? : Pattern → Option (List Char)
  | one chars => chars.single?.map fun c => [c]
  | seq p q => do return (← p.literal?) ++ (← q.literal?)
  | _ => none

/-- The words that a choice is between, if it is between words. -/
def words? : Pattern → Option (List (List Char))
  | alt p q => do return (← p.words?) ++ (← q.words?)
  | p => p.literal?.map fun word => [word]

/-- What is found at a node of a tree of words, between two words that end there. -/
structure WordNode where
  /-- How many words end there. -/
  stops : Nat := 0
  /-- The bytes that lead on behind each of them, with what follows; all of them last first. -/
  chunks : List (List (Nat × List (List Nat))) := [[]]

namespace WordNode

/-- Let a word go on by a byte, behind the words that went on by it before. -/
def insert (byte : Nat) (rest : List Nat) :
    List (Nat × List (List Nat)) → List (Nat × List (List Nat))
  | [] => [(byte, [rest])]
  | entry :: entries =>
    if entry.1 = byte then (byte, rest :: entry.2) :: entries else entry :: insert byte rest entries

/-- Add what is left of a word; that words end counts once until one goes on. -/
def add (node : WordNode) : List Nat → WordNode
  | [] =>
    if 0 < node.stops ∧ node.chunks.all (·.isEmpty) then node
    else ⟨node.stops + 1, [] :: node.chunks⟩
  | byte :: rest =>
    match node.chunks with
    | [] => ⟨node.stops, [insert byte rest []]⟩
    | chunk :: chunks => ⟨node.stops, insert byte rest chunk :: chunks⟩

/-- The node at which some words start. -/
def ofWords (words : List (List Nat)) : WordNode := words.foldl add {}

end WordNode

/-- The bytes of the states that read one of some words, at most of a length, from a node on. -/
def wordsWeight : Nat → List (List Nat) → Nat
  | 0, _ => 0
  | length + 1, words =>
    let node := WordNode.ofWords words
    let chunks := node.chunks.filter (!·.isEmpty)
    if chunks.isEmpty then 0
    else
      let here := stateWeight + choiceWeight * (node.stops + chunks.length)
      chunks.foldl (fun n chunk =>
        let ways := if chunk.length = 1 then 0 else rangeWeight * chunk.length
        chunk.foldl (fun n entry => n + wordsWeight length entry.2.reverse)
          (n + stateWeight + ways)) here

/-! ### Patterns -/

/-- The least number of characters that a match takes, if there can be one. -/
def minLength? : Pattern → Option Nat
  | empty | look _ => some 0
  | one chars => if chars.ranges.isEmpty then none else some 1
  | seq p q => do return (← p.minLength?) + (← q.minLength?)
  | alt p q => do return Nat.min (← p.minLength?) (← q.minLength?)
  | repeated p least _ => p.minLength?.map (· * least)
  | group p => p.minLength?

/-- The bytes of the states that repeat a pattern, given the bytes of its own states. -/
def repetitionWeight (p : Pattern) (once least : Nat) (most : Option Nat) : Nat :=
  let optional := stateWeight + 2 * choiceWeight
  match least, most with
  | 0, none =>
    if p.minLength?.any (0 < ·) then optional + once else 2 * optional + stateWeight + once
  | least, none => least * once + optional
  | 0, some 1 => optional + stateWeight + once
  | least, some most =>
    if least = most then least * once
    else
      (if least = 0 then stateWeight else least * once) + stateWeight +
        (most - least) * (optional + once)

/-- The bytes of the states of a pattern, given those of its options. -/
def joinedWeight (direction : Direction) (p : Pattern) (options : Nat) : Nat :=
  match p with
  | alt _ _ =>
    match p.words? with
    | none => 2 * stateWeight + choiceWeight * p.options.length + options
    | some words =>
      let words := words.map fun word => word.flatMap fun c => CharSet.bytesOf c.toNat
      let words := if direction = .forwards then words else words.map List.reverse
      let longest := words.foldl (fun n word => Nat.max n word.length) 0
      stateWeight + wordsWeight (longest + 1) words
  | _ => options

/-- The bytes of the states of the options of a pattern, without those that join them. -/
def optionsWeight (direction : Direction) : Pattern → Nat
  | empty | look _ => stateWeight
  | one chars => chars.weight direction
  | seq p q =>
    joinedWeight direction p (p.optionsWeight direction) +
      joinedWeight direction q (q.optionsWeight direction)
  | alt p q => p.optionsWeight direction + q.optionsWeight direction
  | repeated p least most =>
    repetitionWeight p (joinedWeight direction p (p.optionsWeight direction)) least most
  | group p =>
    (if direction = .forwards then 2 * stateWeight else 0) +
      joinedWeight direction p (p.optionsWeight direction)

/--
Whether every match starts at the start of the text, or for the other direction
ends at its end.
-/
def isAnchored (direction : Direction) : Pattern → Bool
  | look .textStart => direction = .forwards
  | look .textEnd => direction = .backwards
  | seq p q =>
    if direction = .forwards then p.isAnchored direction || p.isStill && q.isAnchored direction
    else q.isAnchored direction || q.isStill && p.isAnchored direction
  | alt p q => p.isAnchored direction && q.isAnchored direction
  | repeated p least _ => 0 < least && p.isAnchored direction
  | group p => p.isAnchored direction
  | _ => false

/-- The bytes of the automaton that looks for a pattern anywhere in a text. -/
def weight (direction : Direction) (p : Pattern) : Nat :=
  let skipping :=
    if p.isAnchored direction then stateWeight
    else 3 * stateWeight + 2 * choiceWeight + rangeWeight
  let whole := if direction = .forwards then 2 * stateWeight else 0
  skipping + whole + joinedWeight direction p (p.optionsWeight direction) + stateWeight

/-- The greatest weight of a pattern. -/
def maxWeight : Nat := 10 * 1024 * 1024

/-- Whether a pattern needs no more than it may. -/
def isLight (p : Pattern) : Bool :=
  p.weight .forwards ≤ maxWeight && p.weight .backwards ≤ maxWeight

end Pattern

end TemplateVars
