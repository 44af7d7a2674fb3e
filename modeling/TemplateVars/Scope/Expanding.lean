/-!
# Expansions as data

Expanding markup is the one costly thing a look-up can do. An `Expanding`
computation hands over its value together with the markup it has expanded, in
order, so that it can be seen which reads were answered from cached text.
-/

namespace TemplateVars

universe u v

/-- A value together with the markup that was expanded on the way to it. -/
structure Expanding (α : Type u) where
  value : α
  /-- The markup expanded, in order. -/
  expanded : List String

namespace Expanding

variable {α : Type u} {β : Type v}

/-- Chain two computations; their expansions follow one another. -/
protected def bind (x : Expanding α) (f : α → Expanding β) : Expanding β :=
  ⟨(f x.value).value, x.expanded ++ (f x.value).expanded⟩

instance : Monad Expanding.{u} where
  pure a := ⟨a, []⟩
  bind := Expanding.bind

@[simp]
theorem value_pure {α : Type u} (a : α) : (pure a : Expanding α).value = a := rfl

@[simp]
theorem expanded_pure {α : Type u} (a : α) : (pure a : Expanding α).expanded = [] := rfl

@[simp]
theorem value_bind {α β : Type u} (x : Expanding α) (f : α → Expanding β) :
    (x >>= f).value = (f x.value).value := rfl

@[simp]
theorem expanded_bind {α β : Type u} (x : Expanding α) (f : α → Expanding β) :
    (x >>= f).expanded = x.expanded ++ (f x.value).expanded := rfl

@[simp]
theorem value_map {α β : Type u} (f : α → β) (x : Expanding α) : (f <$> x).value = f x.value := rfl

end Expanding

end TemplateVars
