import TemplateVars.Proofs.Page.Readings
import TemplateVars.Proofs.Render.Supplement
import TemplateVars.Proofs.Scope.Literal

/-!
# Saving markup and saving text

With `savemarkup` a variable is saved as the node that it is bound to, and
without it as the text that it reads as. In a tree of a render that text is what
the node expands to, whether it was kept beside the node or not, so the two
variables stand for the same literal text. A page keeps variables as they are
saved, and loading them binds nodes with the same texts. What is loaded into a
tree with the same expander therefore reads the same either way.
-/

namespace TemplateVars

open TreeUpdate

theorem AgreeOn.mapError {ε ε' α β : Type} {R S : α → β → Prop} {x : Except ε α} {y : Except ε β}
    (agree : AgreeOn R x y) (f : ε → ε') (results : ∀ a b, R a b → S a b) :
    AgreeOn S (x.mapError f) (y.mapError f) := by
  cases agree with
  | error e => exact .error (f e)
  | ok related => exact .ok (results _ _ related)

/-! ### Loading -/

namespace Engine

end Engine

/-! ### Saving -/

/-- A call with or without `savemarkup`. -/
def VerbCall.saving (call : VerbCall) (markup : Bool) : VerbCall :=
  { call with options := { call.options with saveMarkup := markup } }

namespace SaveCall

/-- A call of `save` with or without `savemarkup`. -/
def saving (s : SaveCall) (markup : Bool) : SaveCall := { s with call := s.call.saving markup }

variable {s : SaveCall} {expander : Expander}

end SaveCall

section Gathering

variable {γ : Type} {read : Variable → γ} {vars vars' : List (String × Variable)}

end Gathering

namespace Engine

variable {σ : Type} (e : Engine σ) {s : SaveCall} {expander : Expander}

/-- The stash that a call leaves with or without `savemarkup`. -/
def kept (s : SaveCall) (stash : Stash) (markup : Bool) : Stash :=
  (e.save (s.call.saving markup) s.tree s.frame s.page stash).value.2

variable {page : PageId} {rev : RevId} {stored : Option PageRecord} {now : Timestamp} {before : σ}
  {outcome : Bool → FlushOutcome} {left : Bool → Stash} {after : Bool → σ} {stash : Stash}

end Engine

end TemplateVars
