import TemplateVars.Json.Literal
import TemplateVars.Json.Value
import TemplateVars.SortedMap

/-!
# Decoding JSON values

How stored values are taken from JSON. A record is an object, or an array of
its fields in order of which the last may be missing; unknown members are passed
over, a known member that is repeated is refused. A map is an object of which
the last of equal keys counts. Numbers are natural and fit 64 bits.
-/

namespace TemplateVars.Json

/-- The number that digits without a needless zero stand for, within 64 bits. -/
def word64OfDigits? (digits : List Char) : Option Nat :=
  let canonical := digits = ['0'] ∨ digits.head? ≠ some '0'
  if digits ≠ [] ∧ digits.all Char.isDigit ∧ canonical then
    let n := Text.valueOf 10 digits
    if n ≤ Text.maxWord64 then some n else none
  else none

/-- A natural number of 64 bits. -/
def word64? : Json → Option Nat
  | number literal => word64OfDigits? literal
  | _ => none

/-- A text. -/
def text? : Json → Option String
  | string literal => Literal.decode? literal
  | _ => none

/-- A truth value. -/
def bool? : Json → Option Bool
  | bool b => some b
  | _ => none

/-- A value that may be `null`. -/
def nullable? {α : Type} (read : Json → Option α) : Json → Option (Option α)
  | null => some none
  | j => (read j).map some

/-- The known members of an object, none of which may be repeated. -/
def knownMembers (known : List String) :
    List (List Char × Json) → Option (SortedMap String Json)
  | [] => some ∅
  | (literal, value) :: rest => do
    let key ← Literal.decode? literal
    let members ← knownMembers known rest
    if !known.contains key then return members
    if members.contains key then none
    return members.insert key value

/-- The fields of a record, given their names in order. -/
def fields? (names : List String) : Json → Option (SortedMap String Json)
  | object members => knownMembers names members
  | array elements =>
    if elements.length ≤ names.length then some (.ofList (names.zip elements)) else none
  | _ => none

/-- A field that must be there. -/
def required {α : Type} (fields : SortedMap String Json) (name : String)
    (read : Json → Option α) : Option α :=
  (fields.find? name).bind read

/-- A field that has a default. -/
def optional {α : Type} (fields : SortedMap String Json) (name : String) (default : α)
    (read : Json → Option α) : Option α :=
  match fields.find? name with
  | some value => read value
  | none => some default

/-- The entries of a map whose keys and values are read as given; the last of equal keys counts. -/
def entries? {α β : Type} [Ord α] [Std.TransOrd α] [Std.LawfulEqOrd α]
    (readKey : List Char → Option α) (readValue : Json → Option β) :
    Json → Option (SortedMap α β)
  | object members => do
    let entries ← members.mapM fun (key, value) => return (← readKey key, ← readValue value)
    return .ofList entries
  | _ => none

end TemplateVars.Json
