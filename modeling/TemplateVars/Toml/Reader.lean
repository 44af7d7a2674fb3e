import TemplateVars.Toml.Quoted
import TemplateVars.Toml.Scalar

/-!
# Reading TOML

A document is a list of statements, one a line: headers and values under keys.
They are read first and then put together, section by section, which is where
keys given twice and tables begun twice are refused. Nesting and dotted keys
have a limit.
-/

namespace TemplateVars.Toml

/-- Arrays and inline tables may be nested up to this depth, and keys have at most as many steps. -/
def maxDepth : Nat := 79

/-- Pass over blanks. -/
def skipBlanks (cs : List Char) : List Char := cs.dropWhile Quoted.isBlank

/-- Pass over a comment up to the end of its line, if one is next. -/
def skipComment : List Char → List Char
  | '#' :: rest => rest.dropWhile Quoted.isPlain
  | cs => cs

/-- Pass over the end of a line: blanks, a comment, and a line break unless the text ends. -/
def endOfLine (cs : List Char) : Option (List Char) :=
  match skipComment (skipBlanks cs) with
  | [] => some []
  | rest => Quoted.lineBreak? rest

/-- Pass over blanks, comments and line breaks, given enough fuel. -/
def skipSpace : Nat → List Char → List Char
  | 0, cs => cs
  | fuel + 1, cs =>
    let rest := skipComment (skipBlanks cs)
    match Quoted.lineBreak? rest with
    | some rest => skipSpace fuel rest
    | none => rest

/-- Whether a character may stand in a key without quotes. -/
def isBare (c : Char) : Bool := c.isAlphanum || c == '_' || c == '-'

/-- Read one step of a key. -/
def readStep (cs : List Char) : Option (String × List Char) :=
  match cs with
  | '"' :: _ | '\'' :: _ => Quoted.readLine? cs
  | _ =>
    let bare := cs.takeWhile isBare
    if bare.isEmpty then none else some (String.ofList bare, cs.dropWhile isBare)

/-- Read a key whose steps are parted by dots, given enough fuel. -/
def readKey : Nat → List Char → Option (List String × List Char)
  | 0, _ => none
  | fuel + 1, cs => do
    let (step, rest) ← readStep (skipBlanks cs)
    match skipBlanks rest with
    | '.' :: rest =>
      let (steps, rest) ← readKey fuel rest
      return (step :: steps, rest)
    | rest => return ([step], rest)

/-- Read the elements of an array and its closing bracket, given enough fuel. -/
def readElements (value : List Char → Option (Toml × List Char)) :
    Nat → List Char → Option (List Toml × List Char)
  | 0, _ => none
  | fuel + 1, cs =>
    match skipSpace cs.length cs with
    | ']' :: rest => some ([], rest)
    | cs => do
      let (element, rest) ← value cs
      match skipSpace rest.length rest with
      | ',' :: rest =>
        let (elements, rest) ← readElements value fuel rest
        return (element :: elements, rest)
      | ']' :: rest => return ([element], rest)
      | _ => none

/-- Read a key, an equals sign and a value. -/
def readPair (value : List Char → Option (Toml × List Char)) (cs : List Char) :
    Option ((List String × Toml) × List Char) := do
  match ← readKey maxDepth cs with
  | (key, '=' :: rest) =>
    let (v, rest) ← value (skipBlanks rest)
    return ((key, v), skipBlanks rest)
  | _ => none

/-- Read the pairs of an inline table, at least one, and its closing brace, given enough fuel. -/
def readPairs (value : List Char → Option (Toml × List Char)) :
    Nat → List Char → Option (List (List String × Toml) × List Char)
  | 0, _ => none
  | fuel + 1, cs => do
    let (pair, rest) ← readPair value cs
    match rest with
    | ',' :: rest =>
      let (pairs, rest) ← readPairs value fuel rest
      return (pair :: pairs, rest)
    | '\x7d' :: rest => return ([pair], rest)
    | _ => none

/-- Read an array or an inline table whose values are read as given. -/
def readNested (value : List Char → Option (Toml × List Char)) :
    List Char → Option (Toml × List Char)
  | '[' :: rest => do
    let (elements, rest) ← readElements value (rest.length + 1) rest
    return (.array elements, rest)
  | '\x7b' :: rest =>
    match skipBlanks rest with
    | '\x7d' :: rest => some (.table .inline [], rest)
    | rest => do
      let (pairs, rest) ← readPairs value (rest.length + 1) rest
      return (.table .inline (← addAll pairs []), rest)
  | _ => none

/-- Read a value that may hold others up to a depth. -/
def readValue (depth : Nat) (cs : List Char) : Option (Toml × List Char) :=
  match cs with
  | '"' :: _ | '\'' :: _ => (Quoted.read? cs).map fun (s, rest) => (.string s, rest)
  | 't' :: 'r' :: 'u' :: 'e' :: rest => some (.boolean true, rest)
  | 'f' :: 'a' :: 'l' :: 's' :: 'e' :: rest => some (.boolean false, rest)
  | '[' :: _ | '\x7b' :: _ =>
    match depth with
    | 0 => none
    | depth + 1 => readNested (readValue depth) cs
  | _ => Scalar.read? cs

/-- One statement of a document. -/
inductive Statement where
  | entry (key : List String) (value : Toml)
  | header (key : List String)
  /-- The header of one more table of a list. -/
  | listHeader (key : List String)

/-- Read one statement up to its end of line. -/
def readStatement (cs : List Char) : Option (Statement × List Char) := do
  match cs with
  | '[' :: '[' :: rest =>
    match ← readKey maxDepth rest with
    | (key, ']' :: ']' :: rest) => return (.listHeader key, ← endOfLine rest)
    | _ => none
  | '[' :: rest =>
    match ← readKey maxDepth rest with
    | (key, ']' :: rest) => return (.header key, ← endOfLine rest)
    | _ => none
  | _ =>
    let ((key, value), rest) ← readPair (readValue maxDepth) cs
    return (.entry key value, ← endOfLine rest)

/-- Read all statements of a document, given enough fuel. -/
def readStatements : Nat → List Char → Option (List Statement)
  | 0, _ => none
  | fuel + 1, cs =>
    let cs := skipBlanks cs
    match cs with
    | [] => some []
    | c :: _ =>
      if c = '#' ∨ c = '\n' ∨ c = '\r' then do readStatements fuel (← endOfLine cs)
      else do
        let (statement, rest) ← readStatement cs
        return statement :: (← readStatements fuel rest)

/-- A header, none for the top of a document, with the entries beneath it. -/
structure Section where
  /-- The key of the header and whether it is that of a list. -/
  header : Option (List String × Bool)
  entries : List (List String × Toml)

/-- The sections of a document. -/
def sections (header : Option (List String × Bool)) : List Statement → List Section
  | [] => [⟨header, []⟩]
  | .entry key value :: rest =>
    match sections header rest with
    | s :: more => { s with entries := (key, value) :: s.entries } :: more
    | [] => [⟨header, [(key, value)]⟩]
  | .header key :: rest => ⟨header, []⟩ :: sections (some (key, false)) rest
  | .listHeader key :: rest => ⟨header, []⟩ :: sections (some (key, true)) rest

/-- Add a section to a document. -/
def addToDocument (document : Members) (s : Section) : Option Members :=
  match s.header with
  | none => addAll s.entries document
  | some (key, inList) => addSection inList (addAll s.entries) key document

/-- The members of the document that a text holds; a byte order mark in front does not count. -/
def read? (s : String) : Option Members := do
  let cs := s.toList
  let cs := if cs.head? = some '\ufeff' then cs.drop 1 else cs
  let statements ← readStatements (cs.length + 1) cs
  (sections none statements).foldlM addToDocument []

end TemplateVars.Toml
