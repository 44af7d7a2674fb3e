import TemplateVars.Text.Numeral

/-!
# Names and identifiers in storage

Storage keys have a fixed width: names of sets and variables are cut to it.
Pages, revisions and sets are identified by 64-bit numbers.
-/

namespace TemplateVars

/-- Identifies a page. -/
abbrev PageId := Nat

/-- Identifies a revision of a page; later revisions have greater numbers. -/
abbrev RevId := Nat

/-- Identifies a stored set of a page. -/
abbrev SetId := Nat

/-- The number of characters a stored name can have. -/
def maxNameLength : Nat := 50

/-- A name cut to the width of storage keys. -/
def truncateName (name : String) : String := String.ofList (name.toList.take maxNameLength)

@[simp]
theorem toList_truncateName (name : String) :
    (truncateName name).toList = name.toList.take maxNameLength := by
  simp [truncateName]

/-- Cutting a name twice is cutting it once. -/
@[simp]
theorem truncateName_truncateName (name : String) :
    truncateName (truncateName name) = truncateName name := by
  simp [truncateName, List.take_take]

end TemplateVars
