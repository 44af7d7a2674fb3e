import TemplateVars.Text.Blank
import TemplateVars.Text.Numeral

/-!
# Timestamps

Instants of the Gregorian calendar in UTC, down to the nanosecond. They are
written as RFC 3339 asks. Reading is more lenient: the date may be set off from
the time by a blank, numbers may have fewer digits, blanks may stand between
the parts, and any offset from UTC is taken into account. Second 60 is a leap
second and is kept.
-/

namespace TemplateVars

/-- An instant in UTC. -/
structure Timestamp where
  /-- The year; zero is the year before the year one. -/
  year : Int
  /-- The month, from one. -/
  month : Nat
  /-- The day of the month, from one. -/
  day : Nat
  hour : Nat
  minute : Nat
  /-- The second; 60 in a leap second. -/
  second : Nat
  nanosecond : Nat
  deriving DecidableEq

namespace Timestamp

/-! ### The calendar -/

/-- Whether a year has a 29th of February. -/
def isLeapYear (year : Int) : Bool := year % 4 == 0 && (year % 100 != 0 || year % 400 == 0)

/-- The number of days of a month. -/
def daysIn (year : Int) (month : Nat) : Nat :=
  match month with
  | 2 => if isLeapYear year then 29 else 28
  | 4 | 6 | 9 | 11 => 30
  | _ => 31

/-- The first year that can be represented. -/
def minYear : Int := -262143

/-- The last year that can be represented. -/
def maxYear : Int := 262142

/-- The day after a date. -/
def nextDay (t : Timestamp) : Timestamp :=
  if t.day < daysIn t.year t.month then { t with day := t.day + 1 }
  else if t.month < 12 then { t with month := t.month + 1, day := 1 }
  else { t with year := t.year + 1, month := 1, day := 1 }

/-- The day before a date. -/
def previousDay (t : Timestamp) : Timestamp :=
  if 1 < t.day then { t with day := t.day - 1 }
  else if 1 < t.month then { t with month := t.month - 1, day := daysIn t.year (t.month - 1) }
  else { t with year := t.year - 1, month := 12, day := 31 }

/-- Whether the parts name an instant that exists and can be represented. -/
def isValid (t : Timestamp) : Bool :=
  decide (minYear ≤ t.year ∧ t.year ≤ maxYear ∧ 1 ≤ t.month ∧ t.month ≤ 12 ∧
    1 ≤ t.day ∧ t.day ≤ daysIn t.year t.month ∧
    t.hour < 24 ∧ t.minute < 60 ∧ t.second ≤ 60 ∧ t.nanosecond < 1000000000)

/-- The number of minutes of a day. -/
def minutesPerDay : Int := 1440

/-- Move an instant by less than a day's worth of minutes. -/
def addMinutes (t : Timestamp) (minutes : Int) : Timestamp :=
  let total := (t.hour * 60 + t.minute : Int) + minutes
  let clock := total % minutesPerDay
  let moved := { t with hour := (clock / 60).toNat, minute := (clock % 60).toNat }
  if total < 0 then moved.previousDay
  else if minutesPerDay ≤ total then moved.nextDay
  else moved

/-- The number of days of 400 years, after which the calendar repeats. -/
def daysPerEra : Int := 146097

/-- The number of days from the first of March of the year zero to the start of 1970. -/
def daysBeforeEpoch : Int := 719468

/--
The instant a number of seconds after the start of 1970. Years are counted from
the first of March, so that the day that leap years add comes last.
-/
def ofSeconds (seconds : Int) (nanosecond : Nat) : Timestamp :=
  let day := seconds / 86400 + daysBeforeEpoch
  let clock := (seconds % 86400).toNat
  let era := day / daysPerEra
  let inEra := (day % daysPerEra).toNat
  let yearInEra := (inEra - inEra / 1460 + inEra / 36524 - inEra / 146096) / 365
  let inYear := inEra - (365 * yearInEra + yearInEra / 4 - yearInEra / 100)
  let monthFromMarch := (5 * inYear + 2) / 153
  let year := yearInEra + 400 * era
  let month := if monthFromMarch < 10 then monthFromMarch + 3 else monthFromMarch - 9
  { year := if month ≤ 2 then year + 1 else year
    month
    day := inYear - (153 * monthFromMarch + 2) / 5 + 1
    hour := clock / 3600
    minute := clock / 60 % 60
    second := clock % 60
    nanosecond }

/-! ### Writing -/

/-- A year: four digits, and a sign where four digits do not reach. -/
def writeYear (year : Int) : String :=
  if 0 ≤ year ∧ year ≤ 9999 then Text.padded 4 year.toNat
  else (if year < 0 then "-" else "+") ++ Text.padded 4 year.natAbs

/-- The fraction of a second with 0, 3, 6 or 9 digits, whichever is enough. -/
def writeFraction (nanosecond : Nat) : String :=
  if nanosecond = 0 then ""
  else if nanosecond % 1000000 = 0 then "." ++ Text.padded 3 (nanosecond / 1000000)
  else if nanosecond % 1000 = 0 then "." ++ Text.padded 6 (nanosecond / 1000)
  else "." ++ Text.padded 9 nanosecond

/-- Date and time as RFC 3339 asks, with a given spelling of the offset zero. -/
def writeWith (zone : String) (t : Timestamp) : String :=
  writeYear t.year ++ "-" ++ Text.padded 2 t.month ++ "-" ++ Text.padded 2 t.day ++ "T" ++
    Text.padded 2 t.hour ++ ":" ++ Text.padded 2 t.minute ++ ":" ++ Text.padded 2 t.second ++
    writeFraction t.nanosecond ++ zone

/-- The stored form, which marks UTC by `Z`. -/
def stored (t : Timestamp) : String := t.writeWith "Z"

/-- The form shown to people, which marks UTC by `+00:00`. -/
def shown (t : Timestamp) : String := t.writeWith "+00:00"

/-! ### Reading -/

/-- A reader of a part: what it read and the characters after it. -/
abbrev Reader (α : Type) := StateT (List Char) Option α

/-- Pass over blanks. -/
def blanks : Reader Unit := modify Text.dropBlanks

/-- Read a number of at least one and at most `width` digits. -/
def number (width : Nat) : Reader Nat := do
  let cs ← get
  let digits := (cs.take width).takeWhile Char.isDigit
  guard (digits ≠ [])
  set (cs.drop digits.length)
  return Text.valueOf 10 digits

/-- Read a number after blanks. -/
def paddedNumber (width : Nat) : Reader Nat := do
  blanks
  number width

/-- Read one of some characters. -/
def oneOf (allowed : List Char) : Reader Char := do
  match ← get with
  | c :: rest =>
    guard (allowed.contains c)
    set rest
    return c
  | [] => failure

/-- Read a year: up to four digits, or a sign and any number of digits. -/
def yearPart : Reader Int := do
  blanks
  match ← get with
  | '-' :: rest =>
    set rest
    return -(← number rest.length)
  | '+' :: rest =>
    set rest
    return ← number rest.length
  | _ => return ← number 4

/-- Read a separator after blanks. -/
def separator (c : Char) : Reader Unit := do
  blanks
  discard (oneOf [c])

/-- Read the fraction of a second, if there is one; digits after the ninth are passed over. -/
def fractionPart : Reader Nat := do
  match ← get with
  | '.' :: rest =>
    let digits := (rest.take 9).takeWhile Char.isDigit
    guard (digits ≠ [])
    set ((rest.drop digits.length).dropWhile Char.isDigit)
    return Text.valueOf 10 digits * Nat.pow 10 (9 - digits.length)
  | _ => return 0

/-- Read two digits of which the first is at most `limit`. -/
def twoDigits (limit : Char) : Reader Nat := do
  match ← get with
  | a :: b :: rest =>
    guard (a.isDigit && b.isDigit && a ≤ limit)
    set rest
    return Text.valueOf 10 [a, b]
  | _ => failure

/-- Read the offset from UTC in minutes. -/
def offsetPart : Reader Int := do
  blanks
  let cs ← get
  if (cs.take 3).map Char.toLower = ['u', 't', 'c'] then
    set (cs.drop 3)
    return 0
  match ← oneOf ['Z', 'z', '+', '-', '−'] with
  | 'Z' | 'z' => return 0
  | sign =>
    let hours ← twoDigits '9'
    modify fun cs => cs.dropWhile fun c => c == ':' || Text.isBlank c
    let minutes ← twoDigits '5'
    let offset : Int := hours * 60 + minutes
    guard (offset < minutesPerDay)
    return if sign = '+' then offset else -offset

/-- Read an instant and the offset it is given with. -/
def parts : Reader (Timestamp × Int) := do
  let year ← yearPart
  separator '-'
  let month ← paddedNumber 2
  separator '-'
  let day ← paddedNumber 2
  discard (oneOf ['T', 't', ' '])
  let hour ← paddedNumber 2
  separator ':'
  let minute ← paddedNumber 2
  separator ':'
  let second ← paddedNumber 2
  let nanosecond ← fractionPart
  let offset ← offsetPart
  blanks
  return ({ year, month, day, hour, minute, second, nanosecond }, offset)

/-- The instant that a text names. -/
def read? (s : String) : Option Timestamp := do
  let ((t, offset), rest) ← parts.run s.toList
  guard (rest = [] ∧ t.isValid)
  let utc := t.addMinutes (-offset)
  guard utc.isValid
  return utc

end Timestamp

end TemplateVars
