import TemplateVars.Json.Literal

/-!
# String literals are read back

A character is spelled by a letter behind a backslash, by its number, or by
itself. In each case a reader takes exactly the spelling, whatever follows, and
finds the character again.
-/

namespace TemplateVars.Json.Literal

/-- How a character is spelled within a literal. -/
inductive Spells (c : Char) : List Char → Prop
  | letter {e : Char} (listed : escapes.lookup e = some c) (proper : e ≠ 'u') : Spells c ['\\', e]
  | number (control : c.toNat < 0x20) :
      Spells c ['\\', 'u', '0', '0', hexDigit (c.toNat / 16), hexDigit (c.toNat % 16)]
  | itself (noQuote : c ≠ '"') (noBackslash : c ≠ '\\') (shown : 0x20 ≤ c.toNat) : Spells c [c]

theorem spells_encodeChar (c : Char) : Spells c (encodeChar c) := by
  unfold encodeChar
  split
  case h_8 noQuote noBackslash _ _ _ _ _ =>
    split
    · rename_i control
      exact .number control
    · rename_i shown
      exact .itself noQuote noBackslash (Nat.not_lt.1 shown)
  all_goals exact .letter (by decide) (by decide)

theorem digitValue_hexDigit {n : Nat} (small : n < 16) : Text.digitValue (hexDigit n) = n := by
  revert n
  decide

theorem valueOf_hexDigits {n : Nat} (control : n < 0x20) :
    Text.valueOf 16 ['0', '0', hexDigit (n / 16), hexDigit (n % 16)] = n := by
  have high := digitValue_hexDigit (n := n / 16) (by omega)
  have low := digitValue_hexDigit (n := n % 16) (by omega)
  have zero : Text.digitValue '0' = 0 := by decide
  simp only [Text.valueOf, List.foldl_cons, List.foldl_nil, zero, high, low]
  omega

variable {c : Char} {spelling : List Char}

/-- A reader of literals takes exactly the spelling of a character. -/
theorem Spells.scan (spells : Spells c spelling) (rest : List Char) :
    Literal.scan (spelling ++ rest) =
      (Literal.scan rest).map fun p => (spelling ++ p.1, p.2) := by
  cases spells with
  | @letter e listed proper =>
      rw [List.cons_append, List.cons_append, List.nil_append, Literal.scan.eq_def]
      split
      case h_1 same => cases same
      case h_2 same => cases same
      case h_3 same =>
        cases same
        exact absurd rfl proper
      case h_4 same =>
        cases same
        rw [listed]
        rfl
      case h_5 other same =>
        cases same
        exact absurd rfl (other e rest rfl)
  | number control =>
      have high := digitValue_hexDigit (n := c.toNat / 16) (by omega)
      have low := digitValue_hexDigit (n := c.toNat % 16) (by omega)
      have digits : ['0', '0', hexDigit (c.toNat / 16), hexDigit (c.toNat % 16)].all
          (Text.isDigitOf 16) = true := by
        simp only [List.all_cons, List.all_nil, Text.isDigitOf, high, low]
        simp [Text.digitValue]
        omega
      simp only [List.cons_append, List.nil_append]
      rw [Literal.scan, if_pos digits]
  | itself noQuote noBackslash shown =>
      rw [List.cons_append, List.nil_append, Literal.scan.eq_def]
      split
      case h_1 same => cases same
      case h_2 same =>
        cases same
        exact absurd rfl noQuote
      case h_3 same =>
        cases same
        exact absurd rfl noBackslash
      case h_4 same =>
        cases same
        exact absurd rfl noBackslash
      case h_5 same =>
        cases same
        rw [if_neg]
        · rfl
        · simp [noBackslash]
          omega

theorem not_surrogate_of_control {n : Nat} (control : n < 0x20) :
    isHighSurrogate n = false ∧ isLowSurrogate n = false := by
  simp only [isHighSurrogate, isLowSurrogate, Bool.and_eq_false_iff, decide_eq_false_iff_not]
  omega

/-- A decoder finds the character of a spelling. -/
theorem Spells.decodeChars (spells : Spells c spelling) (rest : List Char) :
    Literal.decodeChars (spelling ++ rest) = (Literal.decodeChars rest).map (c :: ·) := by
  cases spells with
  | @letter e listed proper =>
      rw [List.cons_append, List.cons_append, List.nil_append, Literal.decodeChars.eq_def]
      split
      case h_1 same => cases same
      case h_2 same =>
        cases same
        exact absurd rfl proper
      case h_3 same =>
        cases same
        exact absurd rfl proper
      case h_4 same =>
        cases same
        rw [listed]
      case h_5 same => cases same
      case h_6 other single same =>
        cases same
        exact absurd rfl (other e rest rfl)
  | number control =>
      have value := valueOf_hexDigits control
      have plain := not_surrogate_of_control control
      simp only [List.cons_append, List.nil_append]
      rw [Literal.decodeChars.eq_def]
      split
      case h_1 same => cases same
      case h_2 same =>
        cases same
        simp [value, plain]
      case h_3 same =>
        cases same
        simp [value, plain]
      case h_4 number same =>
        cases same
        exact absurd rfl (number _ _ _ _ rest rfl)
      case h_5 same => cases same
      case h_6 other single same =>
        cases same
        exact absurd rfl (other _ _ rfl)
  | itself noQuote noBackslash shown =>
      rw [List.cons_append, List.nil_append, Literal.decodeChars.eq_def]
      split
      case h_1 same => cases same
      case h_6 same =>
        cases same
        rfl
      all_goals
        rename_i same
        cases same
        exact absurd rfl noBackslash

/-- The literal of a text is read up to the closing quote. -/
theorem scan_encode (s : String) (rest : List Char) :
    scan (encode s ++ '"' :: rest) = some (encode s, rest) := by
  unfold encode
  induction s.toList with
  | nil => rw [List.flatMap_nil, List.nil_append, scan]
  | cons c cs ih =>
      rw [List.flatMap_cons, List.append_assoc, (spells_encodeChar c).scan, ih]
      rfl

/-- The literal of a text stands for the text. -/
@[simp]
theorem decode?_encode (s : String) : decode? (encode s) = some s := by
  have decoded (cs : List Char) : decodeChars (cs.flatMap encodeChar) = some cs := by
    induction cs with
    | nil => rw [List.flatMap_nil, decodeChars]
    | cons c cs ih =>
        rw [List.flatMap_cons, (spells_encodeChar c).decodeChars, ih]
        rfl
  rw [decode?, encode, decoded]
  simp

end TemplateVars.Json.Literal
