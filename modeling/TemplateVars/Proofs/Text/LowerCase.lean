import TemplateVars.Text.LowerCase
import TemplateVars.Text.Numeral

/-!
# Digits have no case

Lower-casing a text leaves digits as they are and makes no digit from anything
else, so the spellings of a name are all digits or none of them is.
-/

namespace TemplateVars.Text

/-- No character with a lower-case form, and no such form, is as low as the digits. -/
theorem nine_lt_lowerRuns : ∀ run ∈ lowerRuns, 57 < run.first ∧ 57 < run.image := by
  decide +kernel

theorem isDigit_iff {c : Char} : c.isDigit = true ↔ 48 ≤ c.toNat ∧ c.toNat ≤ 57 := by
  rw [Char.isDigit, Bool.and_eq_true, decide_eq_true_eq, decide_eq_true_eq]
  rfl

theorem not_isDigit_ofNat {n : Nat} (above : 57 < n) : (Char.ofNat n).isDigit = false := by
  rw [← Bool.not_eq_true, isDigit_iff]
  rintro ⟨low, high⟩
  have code : (Char.ofNat n).toNat = n ∨ (Char.ofNat n).toNat = 0 := by
    by_cases valid : n.isValidChar
    · rw [Char.ofNat, dif_pos valid]
      exact Or.inl rfl
    · rw [Char.ofNat, dif_neg valid]
      exact Or.inr rfl
  omega

theorem isDigit_lowerChar (c : Char) : (lowerChar c).isDigit = c.isDigit := by
  rw [lowerChar]
  cases found : lowerRuns.findSome? (·.lower? c.toNat) with
  | none => rfl
  | some n =>
      rcases List.exists_of_findSome?_eq_some found with ⟨run, listed, lowered⟩
      have above := nine_lt_lowerRuns run listed
      rw [CaseRun.lower?] at lowered
      split at lowered
      · rename_i covered
        cases lowered
        have letter : ¬ c.isDigit = true := by
          rw [isDigit_iff]
          omega
        rw [Bool.not_eq_true] at letter
        rw [letter]
        exact not_isDigit_ofNat (by omega)
      · cases lowered

theorem all_isDigit_lowerFrom (before cs : List Char) :
    (lowerFrom before cs).all Char.isDigit = cs.all Char.isDigit := by
  induction cs generalizing before with
  | nil => rfl
  | cons c cs ih =>
      rw [lowerFrom, List.all_append, ih, List.all_cons]
      congr 1
      by_cases sigma : c = 'Σ'
      · subst sigma
        cases meetsCased before && !meetsCased cs <;> rfl
      · by_cases dotted : c = 'İ'
        · subst dotted
          rfl
        · simp [sigma, dotted, isDigit_lowerChar]

theorem lowerFrom_eq_nil {before cs : List Char} : lowerFrom before cs = [] ↔ cs = [] := by
  cases cs with
  | nil => simp [lowerFrom]
  | cons c cs =>
      simp only [lowerFrom, List.append_eq_nil_iff, reduceCtorEq, iff_false, not_and]
      intro empty
      split at empty
      · split at empty <;> cases empty
      · split at empty <;> cases empty

@[simp]
theorem isDigits_lower (s : String) : isDigits (lower s) = isDigits s := by
  have empty : (lower s).isEmpty = s.isEmpty := by
    rw [Bool.eq_iff_iff, String.isEmpty_iff, String.isEmpty_iff, ← String.toList_eq_nil_iff,
      ← String.toList_eq_nil_iff, lower, String.toList_ofList, lowerFrom_eq_nil]
  rw [isDigits, isDigits, empty, lower, String.toList_ofList, all_isDigit_lowerFrom]

theorem isDigits_of_lower_eq {s t : String} (same : lower s = lower t) :
    isDigits s = isDigits t := by
  rw [← isDigits_lower s, same, isDigits_lower]

end TemplateVars.Text
