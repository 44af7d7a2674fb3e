import TemplateVars.Proofs.Text.Numeral
import TemplateVars.Scope.Key

/-!
# Names and their keys

A name is a position exactly when it is the numeral of a number that is not too
great. Different names therefore have different keys.
-/

namespace TemplateVars.Key

theorem position?_eq_some {name : String} {n : Nat} :
    position? name = some n ↔ name = toString n ∧ n ≤ maxPosition := by
  rw [position?]
  constructor
  · intro found
    split at found
    · rename_i canonical
      simp only at found
      split at found
      · rename_i small
        cases found
        exact ⟨Text.isCanonical_iff.1 canonical, small⟩
      · cases found
    · cases found
  · rintro ⟨rfl, small⟩
    have value : Text.valueOf 10 (toString n).toList = n := by
      rw [Nat.toString_eq_repr, Nat.toList_repr, Text.valueOf_toDigits]
    rw [if_pos (Text.isCanonical_iff.2 (by rw [value]))]
    simp only [value, if_pos small]

theorem position?_toString {n : Nat} (small : n ≤ maxPosition) : position? (toString n) = some n :=
  position?_eq_some.2 ⟨rfl, small⟩

theorem parse_eq_numbered {name : String} {n : Nat} :
    parse name = .numbered n ↔ name = toString n ∧ n ≤ maxPosition := by
  rw [← position?_eq_some, parse]
  cases position? name <;> simp

theorem parse_eq_named {name key : String} :
    parse name = .named key ↔ name = key ∧ position? name = none := by
  rw [parse]
  cases position? name <;> simp

theorem toString_injective {m n : Nat} (same : toString m = toString n) : m = n := by
  have digits := congrArg String.toList same
  simp only [Nat.toString_eq_repr, Nat.toList_repr] at digits
  rw [← Text.valueOf_toDigits m, digits, Text.valueOf_toDigits]

theorem parse_injective {name other : String} (same : parse name = parse other) :
    name = other := by
  cases key : parse name with
  | numbered n =>
      exact (parse_eq_numbered.1 key).1.trans (parse_eq_numbered.1 (same.symm.trans key)).1.symm
  | named s =>
      exact (parse_eq_named.1 key).1.trans (parse_eq_named.1 (same.symm.trans key)).1.symm

end TemplateVars.Key
