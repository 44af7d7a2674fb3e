import TemplateVars.Text.Numeral

/-!
# Numbers and their numerals

A number is read back from the numeral that it is written as, also with zeros
filled in on the left. In turn a numeral without a needless zero in front is
the one that its number is written as, so such numerals are as good as numbers.
-/

namespace TemplateVars.Text

theorem valueOf_eq_ofDigitChars {digits : List Char} (decimal : digits.all Char.isDigit = true) :
    valueOf 10 digits = Nat.ofDigitChars 10 digits 0 := by
  rw [valueOf, Nat.ofDigitChars_eq_foldl]
  generalize 0 = start
  induction digits generalizing start with
  | nil => rfl
  | cons c digits ih =>
      rw [List.all_cons, Bool.and_eq_true] at decimal
      simp only [List.foldl_cons, digitValue, decimal.1, if_true]
      exact ih decimal.2 _

theorem all_isDigit_toDigits (n : Nat) : (Nat.toDigits 10 n).all Char.isDigit = true := by
  rw [List.all_eq_true]
  intro c listed
  exact Nat.isDigit_of_mem_toDigits (by decide) (by decide) listed

@[simp]
theorem valueOf_toDigits (n : Nat) : valueOf 10 (Nat.toDigits 10 n) = n := by
  rw [valueOf_eq_ofDigitChars (all_isDigit_toDigits n), Nat.ofDigitChars_ten_toDigits]

theorem digitChar_of_isDigit {c : Char} (digit : c.isDigit = true) :
    (digitValue c).digitChar = c ∧ digitValue c < 10 := by
  have range : 48 ≤ c.toNat ∧ c.toNat ≤ 57 := by
    rw [Char.isDigit, Bool.and_eq_true, decide_eq_true_eq, decide_eq_true_eq] at digit
    exact digit
  have value : digitValue c = c.toNat - 48 := by
    rw [digitValue, if_pos digit]
    rfl
  have small : digitValue c < 10 := by omega
  refine ⟨?_, small⟩
  apply Char.toNat_inj.mp
  rw [Nat.toNat_digitChar_of_lt_ten small, value]
  omega

/-- Digits behind a numeral for a positive number make the numeral of a greater number. -/
theorem toDigits_foldl {digits : List Char} (decimal : digits.all Char.isDigit = true)
    {start : Nat} (positive : 0 < start) :
    Nat.toDigits 10 (digits.foldl (fun n c => 10 * n + digitValue c) start) =
      Nat.toDigits 10 start ++ digits := by
  induction digits generalizing start with
  | nil => simp
  | cons c digits ih =>
      rw [List.all_cons, Bool.and_eq_true] at decimal
      rcases digitChar_of_isDigit decimal.1 with ⟨char, small⟩
      rw [List.foldl_cons, ih decimal.2 (by omega),
        ← Nat.toDigits_append_toDigits (by decide) positive small,
        Nat.toDigits_of_lt_base small, char, List.append_assoc, List.singleton_append]

/-- A numeral without a needless zero is the one its number is written as. -/
theorem toDigits_valueOf {digits : List Char} (nonempty : digits ≠ [])
    (decimal : digits.all Char.isDigit = true)
    (canonical : digits = ['0'] ∨ digits.head? ≠ some '0') :
    Nat.toDigits 10 (valueOf 10 digits) = digits := by
  rcases canonical with rfl | nonzero
  · rfl
  · cases digits with
    | nil => exact absurd rfl nonempty
    | cons c digits =>
        rw [List.all_cons, Bool.and_eq_true] at decimal
        rcases digitChar_of_isDigit decimal.1 with ⟨char, small⟩
        have positive : 0 < digitValue c := by
          rcases Nat.eq_zero_or_pos (digitValue c) with zero | positive
          · rw [zero] at char
            exact absurd (congrArg some char.symm) nonzero
          · exact positive
        rw [valueOf, List.foldl_cons, Nat.mul_zero, Nat.zero_add,
          toDigits_foldl decimal.2 positive, Nat.toDigits_of_lt_base small, char,
          List.singleton_append]

theorem head?_toDigits_ne {n : Nat} (positive : 0 < n) :
    (Nat.toDigits 10 n).head? ≠ some '0' := by
  induction n using Nat.strongRecOn with
  | ind n ih =>
      rw [Nat.toDigits_eq_if (by decide)]
      split
      · rename_i small
        intro zero
        have char : n.digitChar = '0' := Option.some.inj zero
        have code := Nat.toNat_digitChar_of_lt_ten small
        rw [char] at code
        change 48 = 48 + n at code
        omega
      · rw [List.head?_append, Option.or_of_isSome (by simp [Nat.toDigits_ne_nil])]
        exact ih (n / 10) (by omega) (by omega)

/-- The numerals that numbers are written as have no needless zero in front. -/
theorem canonical_toDigits (n : Nat) :
    Nat.toDigits 10 n = ['0'] ∨ (Nat.toDigits 10 n).head? ≠ some '0' := by
  rcases Nat.eq_zero_or_pos n with rfl | positive
  · exact Or.inl rfl
  · exact Or.inr (head?_toDigits_ne positive)

/-- A text without needless zeros is the numeral of the number that it stands for. -/
theorem isCanonical_iff {s : String} :
    isCanonical s = true ↔ s = toString (valueOf 10 s.toList) := by
  have numeral : s = toString (valueOf 10 s.toList) ↔
      Nat.toDigits 10 (valueOf 10 s.toList) = s.toList := by
    rw [Nat.toString_eq_repr, ← String.toList_inj, Nat.toList_repr, eq_comm]
  have nonempty : s.isEmpty = false ↔ s.toList ≠ [] := by
    rw [← Bool.not_eq_true, String.isEmpty_iff, ne_eq, String.toList_eq_nil_iff]
  have zero : (s == "0") = true ↔ s.toList = ['0'] := by
    rw [beq_iff_eq, ← String.toList_inj]
    rfl
  rw [numeral]
  simp only [isCanonical, isDigits, Bool.and_eq_true, Bool.or_eq_true, Bool.not_eq_true',
    nonempty, zero, bne_iff_ne]
  constructor
  · rintro ⟨⟨some, decimal⟩, canonical⟩
    exact toDigits_valueOf some decimal canonical
  · intro same
    rw [← same]
    exact ⟨⟨Nat.toDigits_ne_nil, all_isDigit_toDigits _⟩, canonical_toDigits _⟩

end TemplateVars.Text
