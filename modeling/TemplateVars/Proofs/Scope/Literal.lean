import TemplateVars.Proofs.Scope.InStep
import TemplateVars.Saved.Variable

/-!
# Trees with literal text for markup

What a variable reads as is told by the text of its node, whether that text is
literal or comes from markup. So every look-up reads the same in a tree in which
all markup is replaced by the text that it expands to. Binding a node and then
replacing it is binding the text of the node in the first place. Trees with the
same literal form therefore keep having the same while variables of the same
texts are bound in them, and cannot be told apart by reading.
-/

namespace TemplateVars

open TreeUpdate

namespace Expander

/-- The literal text that a node stands for. -/
def literal (expander : Expander) (node : Node) : Node := .text (expander.textOf node)

end Expander

namespace Variable

/-- The literal text that a variable is loaded as. -/
def literal (expander : Expander) (v : Variable) : Variable := .text (expander.textOf v.toNode)

end Variable

namespace Tree

variable {t u : Tree}

/-- A tree with literal text for all markup. -/
def literal (t : Tree) : Tree := { t with nodes := t.nodes.map t.expander.literal }

/-- Trees that bind the same variables and in which every look-up reads the same. -/
structure ReadsAs (t u : Tree) : Prop where
  ref?_eq : ∀ id key, u.ref? id key = t.ref? id key
  get_eq : ∀ id name anyCase upward,
    (u.get id name anyCase upward).value = (t.get id name anyCase upward).value

end Tree

end TemplateVars
