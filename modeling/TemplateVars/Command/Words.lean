import TemplateVars.Text.Numeral

/-!
# The words of a command line

A command line is read word by word, from left to right. A word that starts with
a dash is an option; one that takes a value has it behind an equals sign or as
the next word, which may not look like an option. Flags of one letter can share
a word. All other words are operands, and so is every word behind a double dash.
Nothing may be given twice. Reading ends at the first misuse, or at the first
option that asks for help or for the version.
-/

namespace TemplateVars

/-- What a value on a command line has to be. -/
inductive ValueKind where
  /-- A path, which is not empty. -/
  | path
  | number
  | text
  deriving DecidableEq

/-- Whether a text is a value of a kind. -/
def ValueKind.accepts : ValueKind → String → Bool
  | path, s => !s.isEmpty
  | number, s => (Text.readNumber? Text.maxWord64 s).isSome
  | text, _ => true

/-- An option of the command line. -/
inductive Switch where
  | config
  | store
  | verbose
  | json
  | set
  | rev
  /-- Whether to write changes. -/
  | apply
  | help
  | version
  deriving DecidableEq

namespace Switch

/-- The name of an option, as it stands behind two dashes. -/
def name : Switch → String
  | config => "config"
  | store => "store"
  | verbose => "verbose"
  | json => "json"
  | set => "set"
  | rev => "rev"
  | apply => "apply"
  | help => "help"
  | version => "version"

/-- The letter of an option, as it stands behind one dash. -/
def letter? : Switch → Option Char
  | verbose => some 'v'
  | help => some 'h'
  | version => some 'V'
  | _ => none

/-- What the value of an option has to be; flags take none. -/
def kind? : Switch → Option ValueKind
  | config | store => some .path
  | set => some .text
  | rev => some .number
  | _ => none

end Switch

/-- Why a command line is not read to its end. -/
inductive Stop where
  /-- The words make no sense. -/
  | misuse
  | help
  | version
  deriving DecidableEq

/-- What was given on a command line, in order. -/
structure Given where
  /-- The options with their values; a flag has the empty text. -/
  switches : List (Switch × String) := []
  operands : List String := []
  deriving DecidableEq

namespace Given

/-- The value of an option. -/
def value? (g : Given) (s : Switch) : Option String := g.switches.lookup s

/-- Whether a flag is given. -/
def has (g : Given) (s : Switch) : Bool := (g.value? s).isSome

/-- Take note of an option. -/
def addSwitch (g : Given) (s : Switch) (value : String) : Except Stop Given :=
  match s with
  | .help => .error .help
  | .version => .error .version
  | s =>
    if g.has s || s.kind?.any (!·.accepts value) then .error .misuse
    else .ok { g with switches := g.switches ++ [(s, value)] }

/-- Take note of an operand. -/
def addOperand (g : Given) (kind : ValueKind) (value : String) : Except Stop Given :=
  if kind.accepts value then .ok { g with operands := g.operands ++ [value] } else .error .misuse

end Given

/-- A word by its form. -/
inductive Word where
  /-- The double dash behind which all words are operands. -/
  | dashes
  /-- The name of an option, with the value behind an equals sign if there is one. -/
  | long (name : String) (value? : Option String)
  /-- The letters of options. -/
  | letters (letters : List Char)
  /-- Any other word. -/
  | plain
  deriving DecidableEq

/-- The form of a word. -/
def Word.ofString (s : String) : Word :=
  match s.toList with
  | ['-', '-'] => .dashes
  | '-' :: '-' :: cs =>
    match cs.span (· != '=') with
    | (name, _ :: value) => .long (String.ofList name) (some (String.ofList value))
    | (name, []) => .long (String.ofList name) none
  | '-' :: c :: cs => .letters (c :: cs)
  | _ => .plain

/-- What may stand on a command line. -/
structure Grammar where
  switches : List Switch
  /-- What the operands have to be, in order. -/
  operands : List ValueKind

namespace Grammar

/-- The kind of the operand that comes next. -/
def nextOperand? (g : Grammar) (given : Given) : Option ValueKind :=
  g.operands[given.operands.length]?

/-- Take note of flags by their letters. -/
def addLetters (g : Grammar) (given : Given) (letters : List Char) : Except Stop Given :=
  letters.foldlM (fun given c =>
    match g.switches.find? (·.letter? == some c) with
    | none => .error .misuse
    | some s => given.addSwitch s "") given

/-- Take note of words that can only be operands. -/
def addOperands (g : Grammar) (given : Given) (words : List String) : Except Stop Given :=
  words.foldlM (fun given word =>
    match g.nextOperand? given with
    | none => .error .misuse
    | some kind => given.addOperand kind word) given

/-- Read words up to the first plain one for which there is no operand. -/
def read (g : Grammar) (given : Given) : List String → Except Stop (Given × List String)
  | [] => .ok (given, [])
  | word :: rest =>
    match Word.ofString word with
    | .dashes => do return (← g.addOperands given rest, [])
    | .letters cs => do g.read (← g.addLetters given cs) rest
    | .plain =>
      match g.nextOperand? given with
      | none => .ok (given, word :: rest)
      | some kind => do g.read (← given.addOperand kind word) rest
    | .long name value? =>
      match g.switches.find? (·.name == name) with
      | none => .error .misuse
      | some s =>
        match s.kind?.isSome, value?, rest with
        | false, none, rest => do g.read (← given.addSwitch s "") rest
        | true, some value, rest => do g.read (← given.addSwitch s value) rest
        | true, none, value :: rest =>
          if Word.ofString value = .plain then do g.read (← given.addSwitch s value) rest
          else .error .misuse
        | _, _, _ => .error .misuse

end Grammar

end TemplateVars
