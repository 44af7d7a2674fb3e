import Mathlib.Algebra.GroupWithZero.Nat
import TemplateVars.Proofs.Scope.Gap
import TemplateVars.Proofs.Text.LowerCase

/-!
# Names and positions, there and back

A frame goes back and forth between a position and the digits that write it: it
routes names to positions, it looks for the digits of a position among its names,
and it writes new digits when positions move. This is sound because no two names
have a key in common, a position is read back from its digits, and the digits of
a position have no other spelling.
-/

namespace TemplateVars.Key

theorem le_maxPosition_iff {n : Nat} : n ≤ maxPosition ↔ n < 2 ^ 32 := by
  change n ≤ 4294967295 ↔ n < 4294967296
  exact Nat.lt_succ_iff.symm

theorem parse_toString {n : Nat} (small : n < 2 ^ 32) : parse (toString n) = .numbered n :=
  parse_eq_numbered.2 ⟨rfl, le_maxPosition_iff.2 small⟩

theorem position?_eq_none {name : String} :
    position? name = none ↔ ∀ n < 2 ^ 32, name ≠ toString n := by
  rw [Option.eq_none_iff_forall_ne_some]
  simp only [ne_eq, position?_eq_some, le_maxPosition_iff]
  constructor
  · intro nowhere n small same
    exact nowhere n ⟨same, small⟩
  · rintro nowhere n ⟨same, small⟩
    exact nowhere n small same

/-- A name that moves when a gap is closed is routed to the position before its own. -/
theorem movedName?_eq_some_iff {removed : Nat} {name moved : String} :
    Frame.movedName? removed name = some moved ↔
      ∃ n, removed < n ∧ parse name = .numbered n ∧ parse moved = .numbered (n - 1) := by
  rw [Frame.movedName?_eq_some]
  constructor
  · rintro ⟨n, written, small, above, rfl⟩
    have before : n - 1 ≤ maxPosition := Nat.le_trans (Nat.sub_le n 1) small
    exact ⟨n, above, parse_eq_numbered.2 ⟨written, small⟩, parse_eq_numbered.2 ⟨rfl, before⟩⟩
  · rintro ⟨n, above, own, next⟩
    rcases parse_eq_numbered.1 own with ⟨written, small⟩
    exact ⟨n, written, small, above, (parse_eq_numbered.1 next).1⟩

/-- A way to route names to keys that keeps them apart, the numbers of 32 bits among them. -/
structure RoutesOneToOne (route : String → Key) : Prop where
  /-- Positions are for the decimal forms of their numbers, without zeros in front. -/
  numbered_iff : ∀ name n, route name = .numbered n ↔ n < 2 ^ 32 ∧ name = toString n
  /-- Every other name stays what it is. -/
  named_iff : ∀ name key, route name = .named key ↔ key = name ∧ ∀ n < 2 ^ 32, name ≠ toString n
  injective : Function.Injective route
  /-- A number that is written is read back. -/
  route_toString : ∀ n < 2 ^ 32, route (toString n) = .numbered n
  /-- When a gap is closed, the digits of a position become those of the position before it. -/
  moved_iff : ∀ removed name moved, Frame.movedName? removed name = some moved ↔
    ∃ n, removed < n ∧ route name = .numbered n ∧ route moved = .numbered (n - 1)
  /-- Where case does not count, what is not all digits is told from all that is. -/
  lower_ne : ∀ word digits, Text.isDigits word = false → Text.isDigits digits = true →
    Text.lower word ≠ Text.lower digits

/-- Routing a name is one to one, and it is the inverse of writing a position. -/
theorem routesOneToOne_parse : RoutesOneToOne parse where
  numbered_iff name n := by rw [parse_eq_numbered, le_maxPosition_iff, and_comm]
  named_iff name key := by rw [parse_eq_named, position?_eq_none, eq_comm]
  injective _ _ := parse_injective
  route_toString _ := parse_toString
  moved_iff _ _ _ := movedName?_eq_some_iff
  lower_ne := by
    intro word digits isWord isDigits same
    rw [Text.isDigits_of_lower_eq same, isDigits] at isWord
    cases isWord

/-- The greatest position and the number after it, zeros in front, and digits of another script. -/
example :
    ["4294967295", "4294967296", "0", "00", "07", "+7", "", "٣"].map parse =
      [.numbered 4294967295, .named "4294967296", .numbered 0, .named "00", .named "07",
        .named "+7", .named "", .named "٣"] := by
  decide +kernel

end TemplateVars.Key
