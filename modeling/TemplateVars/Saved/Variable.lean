import TemplateVars.Scope.Node

/-!
# Saved variables

A variable is saved either as text or as markup that is expanded again wherever
it is loaded.
-/

namespace TemplateVars

/-- A saved variable. -/
inductive Variable where
  /-- Text, used as it stands. -/
  | text (value : String)
  /-- Markup, expanded wherever it is loaded. -/
  | needsParse (value : String)
  deriving DecidableEq

namespace Variable

/-- The variable with a value and a flag that tells whether the value is markup. -/
def ofFlag (value : String) (parseOnLoad : Bool) : Variable :=
  if parseOnLoad then .needsParse value else .text value

/-- The stored value. -/
def value : Variable → String
  | text v | needsParse v => v

/-- Whether the value is markup. -/
def parseOnLoad : Variable → Bool
  | text _ => false
  | needsParse _ => true

/-- The variable that keeps a node's source. -/
def ofNode : Node → Variable
  | .text s => text s
  | .markup s => needsParse s

/-- The node that a variable is loaded as. -/
def toNode : Variable → Node
  | text s => .text s
  | needsParse s => .markup s

@[simp]
theorem ofFlag_value_parseOnLoad (v : Variable) : ofFlag v.value v.parseOnLoad = v := by
  cases v <;> rfl

end Variable

end TemplateVars
