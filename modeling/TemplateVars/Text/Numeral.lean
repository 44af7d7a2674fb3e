/-!
# Decimal numerals

Numbers are written with the ASCII digits. Writing is `Nat.repr`; reading takes
a run of digits at face value, so leading zeros are harmless unless a rule
forbids them. The bounds are those of the identifiers: 32 bits for positions,
64 bits for pages, revisions and sets.
-/

namespace TemplateVars.Text

/-- The greatest number of 32 bits. -/
def maxWord32 : Nat := 4294967295

/-- The greatest number of 64 bits. -/
def maxWord64 : Nat := 18446744073709551615

/-- The value of a digit in a base, for bases up to sixteen. -/
def digitValue (c : Char) : Nat :=
  if c.isDigit then c.toNat - '0'.toNat
  else if 'a' ≤ c ∧ c ≤ 'f' then c.toNat - 'a'.toNat + 10
  else if 'A' ≤ c ∧ c ≤ 'F' then c.toNat - 'A'.toNat + 10
  else 16

/-- Whether a character is a digit of a base. -/
def isDigitOf (base : Nat) (c : Char) : Bool := digitValue c < base

/-- The number that a run of digits stands for. -/
def valueOf (base : Nat) (digits : List Char) : Nat :=
  digits.foldl (fun n c => base * n + digitValue c) 0

/-- Whether a text is a non-empty run of ASCII digits. -/
def isDigits (s : String) : Bool := !s.isEmpty && s.toList.all Char.isDigit

/-- Whether a run of digits has no needless zero in front. -/
def isCanonical (s : String) : Bool := isDigits s && (s == "0" || s.toList.head? != some '0')

/-- Read a number up to a bound; a plus sign may stand in front. -/
def readNumber? (limit : Nat) (s : String) : Option Nat :=
  let digits := if s.toList.head? = some '+' then s.toList.drop 1 else s.toList
  if digits ≠ [] ∧ digits.all Char.isDigit then
    let n := valueOf 10 digits
    if n ≤ limit then some n else none
  else none

/-- The digits of a number, filled with zeros on the left up to a width. -/
def padded (width n : Nat) : String :=
  let digits := Nat.toDigits 10 n
  String.ofList (List.replicate (width - digits.length) '0' ++ digits)

end TemplateVars.Text
