import TemplateVars.Text.Numeral

/-!
# TOML strings

The four ways to write a text in TOML: between single or double quotes, on one
line or on several. Between double quotes a backslash begins an escape, and on
several lines it joins a line to the next one. Writing takes the plainest way
that needs no escape, and the escapes of the first way where there is none.
-/

namespace TemplateVars.Toml.Quoted

/-! ### Reading -/

/-- Whether a character may stand for itself in a string or a comment. -/
def isPlain (c : Char) : Bool := c == '\t' || (' ' ≤ c && c != '\x7f')

/-- Whether a character is a blank within a line. -/
def isBlank (c : Char) : Bool := c == ' ' || c == '\t'

/-- Pass over a line break, if one is next. -/
def lineBreak? : List Char → Option (List Char)
  | '\n' :: rest => some rest
  | '\r' :: '\n' :: rest => some rest
  | _ => none

/-- The escapes of one letter, with the characters they stand for. -/
def escapes : List (Char × Char) := [
  ('b', '\x08'), ('f', '\x0c'), ('n', '\n'), ('r', '\r'), ('t', '\t'), ('"', '"'), ('\\', '\\')]

/-- Read the character with a code point of so many digits of base sixteen. -/
def codePoint (width : Nat) (cs : List Char) : Option (Char × List Char) :=
  let digits := cs.take width
  if digits.length = width ∧ digits.all (Text.isDigitOf 16) then
    let n := Text.valueOf 16 digits
    if n.isValidChar then some (Char.ofNat n, cs.drop width) else none
  else none

/-- Read what follows the backslash of an escape. -/
def escape : List Char → Option (Char × List Char)
  | 'u' :: rest => codePoint 4 rest
  | 'U' :: rest => codePoint 8 rest
  | c :: rest => (escapes.lookup c).map fun e => (e, rest)
  | [] => none

/-- Read up to the double quote that ends a line's string, given enough fuel. -/
def basic : Nat → List Char → Option (List Char × List Char)
  | 0, _ => none
  | fuel + 1, cs =>
    match cs with
    | '"' :: rest => some ([], rest)
    | '\\' :: rest =>
      (escape rest).bind fun (c, rest) =>
        (basic fuel rest).map fun (text, rest) => (c :: text, rest)
    | c :: rest =>
      if isPlain c then (basic fuel rest).map fun (text, rest) => (c :: text, rest) else none
    | [] => none

/-- Read up to the single quote that ends a line's string. -/
def literal : List Char → Option (List Char × List Char)
  | [] => none
  | c :: rest =>
    if c = '\'' then some ([], rest)
    else if isPlain c then (literal rest).map fun (text, rest) => (c :: text, rest)
    else none

/-- Pass over blanks and line breaks, given enough fuel. -/
def skipLines : Nat → List Char → List Char
  | 0, cs => cs
  | fuel + 1, cs =>
    match lineBreak? cs with
    | some rest => skipLines fuel rest
    | none =>
      match cs with
      | c :: rest => if isBlank c then skipLines fuel rest else cs
      | [] => []

/-- The end of a string on several lines: three quotes, of which up to five may come in a row. -/
def closing (quote : Char) (cs : List Char) : Option (List Char × List Char) :=
  let run := (cs.takeWhile (· == quote)).length
  if run < 3 then none
  else
    let inside := min (run - 3) 2
    some (List.replicate inside quote, cs.drop (inside + 3))

/-- Read up to the three double quotes that end a string, given enough fuel. -/
def basicLines : Nat → List Char → Option (List Char × List Char)
  | 0, _ => none
  | fuel + 1, cs =>
    match closing '"' cs, lineBreak? cs with
    | some done, _ => some done
    | none, some rest => (basicLines fuel rest).map fun (text, rest) => ('\n' :: text, rest)
    | none, none =>
      match cs with
      | '\\' :: rest =>
        match lineBreak? (rest.dropWhile isBlank) with
        | some rest => basicLines fuel (skipLines rest.length rest)
        | none =>
          (escape rest).bind fun (c, rest) =>
            (basicLines fuel rest).map fun (text, rest) => (c :: text, rest)
      | c :: rest =>
        if isPlain c then (basicLines fuel rest).map fun (text, rest) => (c :: text, rest)
        else none
      | [] => none

/-- Read up to the three single quotes that end a string, given enough fuel. -/
def literalLines : Nat → List Char → Option (List Char × List Char)
  | 0, _ => none
  | fuel + 1, cs =>
    match closing '\'' cs, lineBreak? cs with
    | some done, _ => some done
    | none, some rest => (literalLines fuel rest).map fun (text, rest) => ('\n' :: text, rest)
    | none, none =>
      match cs with
      | c :: rest =>
        if isPlain c then (literalLines fuel rest).map fun (text, rest) => (c :: text, rest)
        else none
      | [] => none

/-- Read a string on one line. -/
def readLine? : List Char → Option (String × List Char)
  | '"' :: rest => (basic (rest.length + 1) rest).map fun (text, rest) => (String.ofList text, rest)
  | '\'' :: rest => (literal rest).map fun (text, rest) => (String.ofList text, rest)
  | _ => none

/-- Read a string of any kind. A line break right after three quotes does not count. -/
def read? (cs : List Char) : Option (String × List Char) :=
  match cs with
  | '"' :: '"' :: '"' :: rest =>
    let rest := (lineBreak? rest).getD rest
    (basicLines (rest.length + 1) rest).map fun (text, rest) => (String.ofList text, rest)
  | '\'' :: '\'' :: '\'' :: rest =>
    let rest := (lineBreak? rest).getD rest
    (literalLines (rest.length + 1) rest).map fun (text, rest) => (String.ofList text, rest)
  | _ => readLine? cs

/-! ### Writing -/

/-- The ways to write a string. -/
inductive Style where
  /-- Between double quotes. -/
  | basic
  /-- Between single quotes. -/
  | literal
  /-- Between three double quotes. -/
  | basicLines
  /-- Between three single quotes. -/
  | literalLines
  deriving DecidableEq

/-- The quotes of a style. -/
def Style.quotes : Style → List Char
  | basic => ['"']
  | literal => ['\'']
  | basicLines => ['"', '"', '"']
  | literalLines => ['\'', '\'', '\'']

/-- Whether a style spells characters as escapes. -/
def Style.escaping : Style → Bool
  | basic | basicLines => true
  | literal | literalLines => false

/-- Whether a style may run over several lines. -/
def Style.multiline : Style → Bool
  | basicLines | literalLines => true
  | basic | literal => false

/-- The length of the longest run of a quote, `run` of which have just passed. -/
def longestRun (quote : Char) (run : Nat) : List Char → Nat
  | [] => run
  | c :: rest =>
    if c = quote then longestRun quote (run + 1) rest else max run (longestRun quote 0 rest)

/-- Whether a character can only be written as an escape. -/
def needsEscape (c : Char) : Bool := (c < ' ' && c != '\t' && c != '\n') || c == '\x7f'

/-- The style that a text is written in. -/
def styleOf (text : List Char) : Style :=
  let forced := text.any needsEscape
  let backslash := text.contains '\\'
  let lines := text.contains '\n'
  let singles := longestRun '\'' 0 text
  let doubles := longestRun '"' 0 text
  if !forced && !backslash && doubles = 0 && !lines then .basic
  else if !forced && singles = 0 && !lines then .literal
  else if !forced && !backslash && doubles ≤ 2 then .basicLines
  else if !forced && singles ≤ 2 then .literalLines
  else if lines then .basicLines
  else .basic

/-- A character's code point as an escape of four digits. -/
def codeEscape (c : Char) : List Char :=
  let digits := (Nat.toDigits 16 c.toNat).map Char.toUpper
  '\\' :: 'u' :: List.replicate (4 - digits.length) '0' ++ digits

/-- How a character other than a double quote is written where escapes are. -/
def escapeChar (multiline : Bool) (c : Char) : List Char :=
  match c with
  | '\x08' => ['\\', 'b']
  | '\t' => ['\\', 't']
  | '\n' => if multiline then ['\n'] else ['\\', 'n']
  | '\x0c' => ['\\', 'f']
  | '\r' => ['\\', 'r']
  | '\\' => ['\\', '\\']
  | c => if c < ' ' || c == '\x7f' then codeEscape c else [c]

/-- A text with escapes, after `run` double quotes; on several lines two in a row need none. -/
def escapeFrom (multiline : Bool) (run : Nat) : List Char → List Char
  | [] => []
  | '"' :: rest =>
    if run < (if multiline then 2 else 0) then '"' :: escapeFrom multiline (run + 1) rest
    else '\\' :: '"' :: escapeFrom multiline 0 rest
  | c :: rest => escapeChar multiline c ++ escapeFrom multiline 0 rest

/-- The written form of a text. -/
def write (s : String) : List Char :=
  let text := s.toList
  let style := styleOf text
  let first := if style.multiline && text.contains '\n' then ['\n'] else []
  let body := if style.escaping then escapeFrom style.multiline 0 text else text
  style.quotes ++ first ++ body ++ style.quotes

end TemplateVars.Toml.Quoted
