import TemplateVars.Proofs.Text.Numeral
import TemplateVars.Toml.Scalar

/-!
# Whole numbers are read back

The numeral of a number with nothing but the end of its line behind it could be
the beginning of a date, of a time or of a number with a fraction. Each of these
goes on with a character that is no digit, and the line ends instead.
-/

namespace TemplateVars.Toml.Scalar

variable {digits : List Char} {c : Char}

/-- Whatever goes on behind digits, it is a digit or the line ends. -/
theorem ne_of_head? (decimal : digits.all Char.isDigit = true) (noDigit : c.isDigit = false)
    (noBreak : c ≠ '\n') (rest : List Char) : (digits ++ '\n' :: rest).head? ≠ some c := by
  cases digits with
  | nil => simpa using Ne.symm noBreak
  | cons d digits =>
      rw [List.all_cons, Bool.and_eq_true] at decimal
      rintro ⟨⟩
      rw [decimal.1] at noDigit
      cases noDigit

theorem char_eq_none (decimal : digits.all Char.isDigit = true) (noDigit : c.isDigit = false)
    (noBreak : c ≠ '\n') (rest : List Char) : char c (digits ++ '\n' :: rest) = none := by
  have head := ne_of_head? decimal noDigit noBreak rest
  cases shape : digits ++ '\n' :: rest with
  | nil => rfl
  | cons d cs =>
      rw [shape] at head
      exact if_neg fun same => head (congrArg some same.symm)

/-- A number of so many digits is taken from the digits alone. -/
theorem exists_of_fixed (decimal : digits.all Char.isDigit = true) {width least greatest n : Nat}
    {rest after : List Char}
    (taken : fixed width least greatest (digits ++ '\n' :: rest) = some (n, after)) :
    ∃ left : List Char, left.all Char.isDigit = true ∧ after = left ++ '\n' :: rest := by
  simp only [fixed] at taken
  split at taken
  · rename_i enough
    have short : width ≤ digits.length := by
      refine Nat.le_of_not_lt fun long => ?_
      have more : width - digits.length = (width - digits.length - 1) + 1 := by omega
      rw [List.take_append, more, List.take_succ_cons, List.all_append, List.all_cons] at enough
      simp at enough
    split at taken
    · cases taken
      refine ⟨digits.drop width, ?_, List.drop_append_of_le_length short⟩
      rw [List.all_eq_true] at decimal ⊢
      exact fun c listed => decimal c (List.mem_of_mem_drop listed)
    · cases taken
  · cases taken

theorem date_eq_none (decimal : digits.all Char.isDigit = true) (rest : List Char) :
    date (digits ++ '\n' :: rest) = none := by
  rw [date]
  cases year : fixed 4 0 9999 (digits ++ '\n' :: rest) with
  | none => rfl
  | some taken =>
      rcases exists_of_fixed decimal year with ⟨left, decimal', shape⟩
      have noDash := char_eq_none (c := '-') decimal' (by decide) (by decide) rest
      simp only [Option.bind_eq_bind, Option.bind_some, shape, noDash, Option.bind_none]

theorem time_eq_none (decimal : digits.all Char.isDigit = true) (rest : List Char) :
    time (digits ++ '\n' :: rest) = none := by
  rw [time]
  cases hour : fixed 2 0 23 (digits ++ '\n' :: rest) with
  | none => rfl
  | some taken =>
      rcases exists_of_fixed decimal hour with ⟨left, decimal', shape⟩
      have noColon := char_eq_none (c := ':') decimal' (by decide) (by decide) rest
      simp only [Option.bind_eq_bind, Option.bind_some, shape, noColon, Option.bind_none]

theorem datetime_eq_none (decimal : digits.all Char.isDigit = true) (rest : List Char) :
    datetime (digits ++ '\n' :: rest) = none := by
  rw [datetime, dateAndTime, date_eq_none decimal, time_eq_none decimal]
  rfl

theorem sign_digits (decimal : digits.all Char.isDigit = true) (rest : List Char) :
    sign (digits ++ '\n' :: rest) = ([], digits ++ '\n' :: rest) := by
  have plus := ne_of_head? (c := '+') decimal (by decide) (by decide) rest
  have minus := ne_of_head? (c := '-') decimal (by decide) (by decide) rest
  rw [sign.eq_def]
  split
  case h_1 same =>
    rw [same] at plus
    exact absurd rfl plus
  case h_2 same =>
    rw [same] at minus
    exact absurd rfl minus
  case h_3 => rfl

theorem special_eq_none (decimal : digits.all Char.isDigit = true) (rest : List Char) :
    special (digits ++ '\n' :: rest) = none := by
  have noInf := ne_of_head? (c := 'i') decimal (by decide) (by decide) rest
  have noNan := ne_of_head? (c := 'n') decimal (by decide) (by decide) rest
  simp only [special, sign_digits decimal]
  split
  case h_1 same =>
    rw [same] at noInf
    exact absurd rfl noInf
  case h_2 same =>
    rw [same] at noNan
    exact absurd rfl noNan
  case h_3 => rfl

theorem isDigitOf_ten (decimal : c.isDigit = true) : Text.isDigitOf 10 c = true := by
  rw [Text.isDigitOf, decide_eq_true_eq]
  exact (Text.digitChar_of_isDigit decimal).2

theorem moreDigits_append (decimal : digits.all Char.isDigit = true) (rest : List Char) :
    moreDigits 10 (digits ++ '\n' :: rest) = (digits, '\n' :: rest) := by
  induction digits with
  | nil => rfl
  | cons c digits ih =>
      rw [List.all_cons, Bool.and_eq_true] at decimal
      have noUnderscore : c ≠ '_' := by
        rintro rfl
        exact absurd decimal.1 (by decide)
      rw [List.cons_append, moreDigits, if_pos (isDigitOf_ten decimal.1), ih decimal.2]
      · exact fun same _ => noUnderscore same
      · exact fun _ _ same _ => noUnderscore same

theorem decimal_toDigits (n : Nat) (rest : List Char) :
    decimal (Nat.toDigits 10 n ++ '\n' :: rest) = some (Nat.toDigits 10 n, '\n' :: rest) := by
  rcases Text.canonical_toDigits n with zero | nonzero
  · rw [zero]
    rfl
  · have all := Text.all_isDigit_toDigits n
    cases digits : Nat.toDigits 10 n with
    | nil => exact absurd digits Nat.toDigits_ne_nil
    | cons c ds =>
        rw [digits] at nonzero all
        rw [List.all_cons, Bool.and_eq_true] at all
        have noZero : c ≠ '0' := fun same => nonzero (congrArg some same)
        rw [List.cons_append, decimal.eq_def]
        split
        case h_1 same => exact absurd (List.cons.inj same).1 noZero
        case h_2 => rw [Scalar.digits, if_pos (isDigitOf_ten all.1), moreDigits_append all.2]

theorem float_eq_none (n : Nat) (rest : List Char) :
    float (Nat.toDigits 10 n ++ '\n' :: rest) = none := by
  simp only [float, sign_digits (Text.all_isDigit_toDigits n), decimal_toDigits]
  rfl

theorem value_toDigits (n : Nat) : value 10 (Nat.toDigits 10 n) = n := by
  have kept : (Nat.toDigits 10 n).filter (· ≠ '_') = Nat.toDigits 10 n := by
    rw [List.filter_eq_self]
    intro c listed
    have decimal := List.all_eq_true.1 (Text.all_isDigit_toDigits n) c listed
    rw [decide_eq_true_eq]
    rintro rfl
    exact absurd decimal (by decide)
  rw [value, kept, Text.valueOf_toDigits]

/-- A numeral is no base: behind a zero it ends. -/
theorem second_of_toDigits {n : Nat} {b : Char} {rest cs : List Char}
    (shape : Nat.toDigits 10 n ++ '\n' :: rest = '0' :: b :: cs) : b = '\n' := by
  rcases Text.canonical_toDigits n with zero | nonzero
  · rw [zero] at shape
    exact (List.cons.inj (List.cons.inj shape).2).1.symm
  · cases digits : Nat.toDigits 10 n with
    | nil => exact absurd digits Nat.toDigits_ne_nil
    | cons c ds =>
        rw [digits] at shape nonzero
        exact absurd (congrArg some (List.cons.inj shape).1) nonzero

theorem integer_toDigits {n : Nat} (small : n ≤ 9223372036854775807) (rest : List Char) :
    integer (Nat.toDigits 10 n ++ '\n' :: rest) = some (.integer n, '\n' :: rest) := by
  have fits : fit n = some (.integer n) := if_pos (by omega)
  rw [integer.eq_def]
  simp only
  split
  case h_1 shape => exact absurd (second_of_toDigits shape) (by decide)
  case h_2 shape => exact absurd (second_of_toDigits shape) (by decide)
  case h_3 shape => exact absurd (second_of_toDigits shape) (by decide)
  case h_4 =>
    simp only [sign_digits (Text.all_isDigit_toDigits n), decimal_toDigits, value_toDigits,
      Option.bind_eq_bind, Option.bind_some]
    rw [if_neg (by simp), fits]
    rfl

/-- A number of 64 bits with sign is read back from its numeral. -/
theorem read?_toDigits {n : Nat} (small : n ≤ 9223372036854775807) (rest : List Char) :
    read? (Nat.toDigits 10 n ++ '\n' :: rest) = some (.integer n, '\n' :: rest) := by
  have decimal := Text.all_isDigit_toDigits n
  rw [read?, datetime_eq_none decimal, special_eq_none decimal, float_eq_none,
    integer_toDigits small]
  rfl

end TemplateVars.Toml.Scalar
