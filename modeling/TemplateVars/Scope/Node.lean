import TemplateVars.Scope.Expanding

/-!
# Argument nodes

A template argument is either literal text or markup that the host has still to
expand. An `Expander` is the host's way to do so.
-/

namespace TemplateVars

/-- A template argument as the host hands it over. -/
inductive Node where
  /-- Literal text, used as it stands. -/
  | text (source : String)
  /-- Markup, whose text comes from the host's expander. -/
  | markup (source : String)
  deriving DecidableEq

/-- The source of a node before any expansion. -/
def Node.source : Node → String
  | text s | markup s => s

/-- The host's expansion of markup into text. -/
abbrev Expander := String → String

/-- The text of a node under an expander. -/
def Expander.textOf (expander : Expander) : Node → String
  | .text s => s
  | .markup m => expander m

/-- The text of a node, with the markup that had to be expanded for it. -/
def Expander.expand (expander : Expander) : Node → Expanding String
  | .text s => pure s
  | .markup m => ⟨expander m, [m]⟩

@[simp]
theorem Expander.value_expand (expander : Expander) (node : Node) :
    (expander.expand node).value = expander.textOf node := by
  cases node <;> rfl

end TemplateVars
