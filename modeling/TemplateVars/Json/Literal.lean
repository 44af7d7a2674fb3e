import TemplateVars.Text.Numeral

/-!
# String literals

A string literal spells quotes, backslashes and control characters as escapes.
Reading also knows the escapes that writing does not need, among them characters
beyond the basic plane as a pair of surrogates. A literal can be well formed and
still stand for no text, because of a surrogate on its own.
-/

namespace TemplateVars.Json.Literal

/-- The escapes of one letter, with the characters they stand for. -/
def escapes : List (Char × Char) := [
  ('"', '"'), ('\\', '\\'), ('/', '/'), ('b', '\x08'), ('f', '\x0c'), ('n', '\n'), ('r', '\r'),
  ('t', '\t')]

/-- A digit of base sixteen. -/
def hexDigit (n : Nat) : Char := (Nat.toDigits 16 n).headD '0'

/-- A character as it is spelled within a literal. -/
def encodeChar (c : Char) : List Char :=
  match c with
  | '"' => ['\\', '"']
  | '\\' => ['\\', '\\']
  | '\x08' => ['\\', 'b']
  | '\x0c' => ['\\', 'f']
  | '\n' => ['\\', 'n']
  | '\r' => ['\\', 'r']
  | '\t' => ['\\', 't']
  | c =>
    if c.toNat < 0x20 then ['\\', 'u', '0', '0', hexDigit (c.toNat / 16), hexDigit (c.toNat % 16)]
    else [c]

/-- The literal of a text. -/
def encode (s : String) : List Char := s.toList.flatMap encodeChar

/-- Whether a unit of 16 bits is the first half of a surrogate pair. -/
def isHighSurrogate (n : Nat) : Bool := 0xD800 ≤ n && n ≤ 0xDBFF

/-- Whether a unit of 16 bits is the second half of a surrogate pair. -/
def isLowSurrogate (n : Nat) : Bool := 0xDC00 ≤ n && n ≤ 0xDFFF

/-- The character of a surrogate pair. -/
def ofSurrogates (high low : Nat) : Char :=
  Char.ofNat (0x10000 + (high - 0xD800) * 0x400 + (low - 0xDC00))

/-- The characters that a literal stands for; `none` for a broken escape or a lone surrogate. -/
def decodeChars : List Char → Option (List Char)
  | [] => some []
  | '\\' :: 'u' :: a :: b :: c :: d :: '\\' :: 'u' :: e :: f :: g :: h :: rest =>
    let unit := Text.valueOf 16 [a, b, c, d]
    let next := Text.valueOf 16 [e, f, g, h]
    if isHighSurrogate unit then
      if isLowSurrogate next then (decodeChars rest).map (ofSurrogates unit next :: ·) else none
    else if isLowSurrogate unit then none
    else (decodeChars ('\\' :: 'u' :: e :: f :: g :: h :: rest)).map (Char.ofNat unit :: ·)
  | '\\' :: 'u' :: a :: b :: c :: d :: rest =>
    let unit := Text.valueOf 16 [a, b, c, d]
    if isHighSurrogate unit || isLowSurrogate unit then none
    else (decodeChars rest).map (Char.ofNat unit :: ·)
  | '\\' :: e :: rest =>
    match escapes.lookup e with
    | some c => (decodeChars rest).map (c :: ·)
    | none => none
  | ['\\'] => none
  | c :: rest => (decodeChars rest).map (c :: ·)

/-- The text that a literal stands for. -/
def decode? (literal : List Char) : Option String := (decodeChars literal).map String.ofList

/--
Part a literal, up to its closing quote, from the characters behind it. Control
characters and unknown escapes are not part of any literal.
-/
def scan : List Char → Option (List Char × List Char)
  | [] => none
  | '"' :: rest => some ([], rest)
  | '\\' :: 'u' :: a :: b :: c :: d :: rest =>
    if [a, b, c, d].all (Text.isDigitOf 16) then
      (scan rest).map fun (raw, rest) => ('\\' :: 'u' :: a :: b :: c :: d :: raw, rest)
    else none
  | '\\' :: e :: rest =>
    if (escapes.lookup e).isSome then (scan rest).map fun (raw, rest) => ('\\' :: e :: raw, rest)
    else none
  | c :: rest =>
    if c.toNat < 0x20 || c == '\\' then none
    else (scan rest).map fun (raw, rest) => (c :: raw, rest)

end TemplateVars.Json.Literal
