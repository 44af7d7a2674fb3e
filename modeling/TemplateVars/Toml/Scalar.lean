import TemplateVars.Toml.Value
import TemplateVars.Text.Numeral
import TemplateVars.Timestamp

/-!
# TOML numbers and dates

Whole numbers of 64 bits with sign, in four bases and with underscores between
digits; numbers with a fraction or an exponent, of which none may be too large;
dates and times, which must exist.
-/

namespace TemplateVars.Toml.Scalar

/-- A reader of a part: what was read and the characters behind it. -/
abbrev Reader (α : Type) := List Char → Option (α × List Char)

/-- Read further digits of a base, each of which may have an underscore in front. -/
def moreDigits (base : Nat) : List Char → List Char × List Char
  | [] => ([], [])
  | ['_'] => ([], ['_'])
  | '_' :: c :: rest =>
    if Text.isDigitOf base c then
      let (ds, rest) := moreDigits base rest
      ('_' :: c :: ds, rest)
    else ([], '_' :: c :: rest)
  | c :: rest =>
    if Text.isDigitOf base c then
      let (ds, rest) := moreDigits base rest
      (c :: ds, rest)
    else ([], c :: rest)

/-- Read digits of a base with single underscores between them. -/
def digits (base : Nat) : Reader (List Char)
  | [] => none
  | c :: rest =>
    if Text.isDigitOf base c then
      let (ds, rest) := moreDigits base rest
      some (c :: ds, rest)
    else none

/-- Read a sign, if there is one. -/
def sign (cs : List Char) : List Char × List Char :=
  match cs with
  | '+' :: rest => (['+'], rest)
  | '-' :: rest => (['-'], rest)
  | _ => ([], cs)

/-- Read decimal digits without a needless zero in front. -/
def decimal : Reader (List Char)
  | '0' :: rest => some (['0'], rest)
  | cs => digits 10 cs

/-- The number that digits with underscores stand for. -/
def value (base : Nat) (ds : List Char) : Nat := Text.valueOf base (ds.filter (· ≠ '_'))

/-- A whole number, if it fits 64 bits with sign. -/
def fit (n : Int) : Option Toml :=
  if -9223372036854775808 ≤ n ∧ n ≤ 9223372036854775807 then some (.integer n) else none

/-- Read a whole number. -/
def integer (cs : List Char) : Option (Toml × List Char) :=
  let based (base : Nat) (rest : List Char) : Option (Toml × List Char) := do
    let (ds, rest) ← digits base rest
    return (← fit (value base ds), rest)
  match cs with
  | '0' :: 'x' :: rest => based 16 rest
  | '0' :: 'o' :: rest => based 8 rest
  | '0' :: 'b' :: rest => based 2 rest
  | _ => do
    let (s, rest) := sign cs
    let (ds, rest) ← decimal rest
    let n : Int := value 10 ds
    return (← fit (if s = ['-'] then -n else n), rest)

/-- The least number that double precision rounds to infinity. -/
def infinityBound : Nat := Nat.pow 2 1024 - Nat.pow 2 970

/-- Whether a number given by its digits and a power of ten rounds to infinity. -/
def overflows (ds : List Char) (exponent : Int) : Bool :=
  let n := Text.valueOf 10 ds
  let size : Int := (Nat.toDigits 10 n).length + exponent
  if n = 0 then false
  else if size < 300 then false
  else if 400 < size then true
  else if 0 ≤ exponent then infinityBound ≤ n * Nat.pow 10 exponent.toNat
  else infinityBound * Nat.pow 10 exponent.natAbs ≤ n

/-- Read a fraction, if there is one. -/
def fraction (cs : List Char) : List Char × List Char :=
  match cs with
  | '.' :: rest =>
    match digits 10 rest with
    | some (ds, rest) => ('.' :: ds, rest)
    | none => ([], cs)
  | _ => ([], cs)

/-- Read an exponent, if there is one: what was written and what it stands for. -/
def exponent (cs : List Char) : List Char × Int × List Char :=
  match cs with
  | c :: rest =>
    if c = 'e' ∨ c = 'E' then
      let (s, rest) := sign rest
      match digits 10 rest with
      | some (ds, rest) =>
        let n : Int := value 10 ds
        (c :: s ++ ds, if s = ['-'] then -n else n, rest)
      | none => ([], 0, cs)
    else ([], 0, cs)
  | [] => ([], 0, cs)

/-- Read infinity, or what is no number. -/
def special (cs : List Char) : Option (Toml × List Char) :=
  let (s, rest) := sign cs
  match rest with
  | 'i' :: 'n' :: 'f' :: rest => some (.float (s ++ ['i', 'n', 'f']), rest)
  | 'n' :: 'a' :: 'n' :: rest => some (.float (s ++ ['n', 'a', 'n']), rest)
  | _ => none

/-- Read a number with a fraction or an exponent. -/
def float (cs : List Char) : Option (Toml × List Char) := do
  let (s, rest) := sign cs
  let (whole, rest) ← decimal rest
  let (part, rest) := fraction rest
  let (ending, power, rest) := exponent rest
  if part = [] ∧ ending = [] then none
  let ds := (whole ++ part).filter Char.isDigit
  let places : Int := (part.filter Char.isDigit).length
  if s ≠ ['-'] ∧ overflows ds (power - places) then none
  return (.float (s ++ whole ++ part ++ ending), rest)

/-! ### Dates and times -/

/-- Read a number of exactly so many digits within bounds. -/
def fixed (width least greatest : Nat) (cs : List Char) : Option (Nat × List Char) :=
  let ds := cs.take width
  if ds.length = width ∧ ds.all Char.isDigit then
    let n := Text.valueOf 10 ds
    if least ≤ n ∧ n ≤ greatest then some (n, cs.drop width) else none
  else none

/-- Read a character. -/
def char (c : Char) : List Char → Option (List Char)
  | d :: rest => if c = d then some rest else none
  | [] => none

/-- Read past a date. -/
def date (cs : List Char) : Option (List Char) := do
  let (year, cs) ← fixed 4 0 9999 cs
  let cs ← char '-' cs
  let (month, cs) ← fixed 2 1 12 cs
  let cs ← char '-' cs
  let (_, cs) ← fixed 2 1 (Timestamp.daysIn year month) cs
  return cs

/-- Read past a time. -/
def time (cs : List Char) : Option (List Char) := do
  let (_, cs) ← fixed 2 0 23 cs
  let cs ← char ':' cs
  let (_, cs) ← fixed 2 0 59 cs
  let cs ← char ':' cs
  let (_, cs) ← fixed 2 0 60 cs
  match cs with
  | '.' :: rest =>
    if (rest.takeWhile Char.isDigit).isEmpty then return cs else return rest.dropWhile Char.isDigit
  | _ => return cs

/-- Read past an offset from UTC, if there is one. -/
def offset (cs : List Char) : List Char :=
  match cs with
  | c :: rest =>
    if c = 'Z' ∨ c = 'z' then rest
    else if c = '+' ∨ c = '-' then
      (do
        let (_, rest) ← fixed 2 0 23 rest
        let rest ← char ':' rest
        let (_, rest) ← fixed 2 0 59 rest
        some rest).getD cs
    else cs
  | [] => cs

/-- Read past a date with or without a time. -/
def dateAndTime (cs : List Char) : Option (List Char) := do
  let rest ← date cs
  match rest with
  | c :: after =>
    if c = 'T' ∨ c = 't' ∨ c = ' ' then return ((time after).map offset).getD rest
    else return rest
  | [] => return rest

/-- Read a date, a time, or both. -/
def datetime (cs : List Char) : Option (Toml × List Char) :=
  ((dateAndTime cs).or (time cs)).map fun rest =>
    (.datetime (cs.take (cs.length - rest.length)), rest)

/-- Read a number or a date. -/
def read? (cs : List Char) : Option (Toml × List Char) :=
  (datetime cs).or <| (special cs).or <| (float cs).or (integer cs)

end TemplateVars.Toml.Scalar
