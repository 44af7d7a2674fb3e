import Mathlib.Algebra.GroupWithZero.Nat
import Mathlib.Data.Option.Basic
import TemplateVars.Proofs.Text.Numeral
import TemplateVars.Timestamp

/-!
# Instants are read back

Every instant that can be represented is read back from its stored form: each
number is written with as many digits as its reader takes, and the offset zero
moves nothing.
-/

namespace TemplateVars

namespace Text

theorem toList_padded (width n : Nat) :
    (padded width n).toList =
      List.replicate (width - (Nat.toDigits 10 n).length) '0' ++ Nat.toDigits 10 n := by
  simp [padded]

theorem all_isDigit_padded (width n : Nat) :
    (padded width n).toList.all Char.isDigit = true := by
  rw [toList_padded, List.all_append, all_isDigit_toDigits]
  simp

theorem valueOf_padded (width n : Nat) : valueOf 10 (padded width n).toList = n := by
  rw [valueOf_eq_ofDigitChars (all_isDigit_padded width n), toList_padded, Nat.ofDigitChars_append,
    Nat.ofDigitChars_replicate_zero, Nat.mul_zero, Nat.ofDigitChars_ten_toDigits]

theorem length_padded {width n : Nat} (positive : 0 < width) (fits : n < 10 ^ width) :
    (padded width n).toList.length = width := by
  have short : (Nat.toDigits 10 n).length ≤ width :=
    (Nat.length_toDigits_le_iff (by decide) positive).2 fits
  rw [toList_padded, List.length_append, List.length_replicate]
  omega

theorem padded_ne_nil (width n : Nat) : (padded width n).toList ≠ [] := by
  rw [toList_padded]
  simp [Nat.toDigits_ne_nil]

theorem not_isBlank_of_isDigit {c : Char} (digit : c.isDigit = true) : isBlank c = false := by
  have range : 48 ≤ c.toNat ∧ c.toNat ≤ 57 := by
    rw [Char.isDigit, Bool.and_eq_true, decide_eq_true_eq, decide_eq_true_eq] at digit
    exact digit
  simp only [isBlank, inRanges, blankRanges, List.any_cons, List.any_nil, Bool.or_false,
    Bool.or_eq_false_iff, Bool.and_eq_false_iff, decide_eq_false_iff_not]
  omega

theorem dropBlanks_digits {digits : List Char} (nonempty : digits ≠ [])
    (decimal : digits.all Char.isDigit = true) (rest : List Char) :
    dropBlanks (digits ++ rest) = digits ++ rest := by
  cases digits with
  | nil => exact absurd rfl nonempty
  | cons c digits =>
      rw [List.all_cons, Bool.and_eq_true] at decimal
      rw [dropBlanks, List.cons_append,
        List.dropWhile_cons_of_neg (by simp [not_isBlank_of_isDigit decimal.1])]

end Text

namespace Timestamp

theorem run_blanks (cs : List Char) : blanks.run cs = some ((), Text.dropBlanks cs) := rfl

theorem run_guard_of {p : Prop} [Decidable p] (holds : p) (cs : List Char) :
    (guard p : Reader Unit).run cs = some ((), cs) := by
  have goesOn : (guard p : Reader Unit) = pure () := if_pos holds
  rw [goesOn]
  rfl

theorem guard_bind {α : Type} {p : Prop} [Decidable p] (holds : p) (x : Option α) :
    (guard p >>= fun _ => x) = x := by
  have goesOn : (guard p : Option Unit) = pure () := if_pos holds
  rw [goesOn, pure_bind]

theorem run_discard {α : Type} (x : Reader α) (cs : List Char) :
    (discard x).run cs = (x.run cs).map fun p => ((), p.2) := by
  change (x >>= fun _ => pure ()).run cs = _
  rw [StateT.run_bind]
  cases x.run cs <;> rfl

theorem run_bind_of {α β : Type} {x : Reader α} {f : α → Reader β} {cs rest : List Char} {a : α}
    (reads : x.run cs = some (a, rest)) : (x >>= f).run cs = (f a).run rest := by
  rw [StateT.run_bind, reads]
  rfl

theorem run_oneOf {c : Char} {allowed : List Char} (listed : c ∈ allowed) (rest : List Char) :
    (oneOf allowed).run (c :: rest) = some (c, rest) := by
  refine (run_bind_of rfl).trans ((run_bind_of (run_guard_of
    (List.contains_iff_mem.2 listed) _)).trans ?_)
  rfl

/-- A number is read if its digits are as many as may be, or no digit follows. -/
theorem run_number {width : Nat} {digits rest : List Char} (nonempty : digits ≠ [])
    (decimal : digits.all Char.isDigit = true) (fits : digits.length ≤ width)
    (stops : digits.length = width ∨ ∀ c, rest.head? = some c → c.isDigit = false) :
    (number width).run (digits ++ rest) = some (Text.valueOf 10 digits, rest) := by
  have all := List.all_eq_true.1 decimal
  have taken : ((digits ++ rest).take width).takeWhile Char.isDigit = digits := by
    rw [List.take_append, List.take_of_length_le fits, List.takeWhile_append_of_pos all]
    rcases stops with full | other
    · rw [full, Nat.sub_self, List.take_zero, List.takeWhile_nil, List.append_nil]
    · cases rest with
      | nil => simp
      | cons c rest =>
          cases more : width - digits.length with
          | zero => simp
          | succ k => simp [other c rfl]
  have nonblank : ((digits ++ rest).take width).takeWhile Char.isDigit ≠ [] := taken.symm ▸ nonempty
  refine (run_bind_of rfl).trans ((run_bind_of (run_guard_of nonblank _)).trans ?_)
  rw [taken, List.drop_left]
  rfl

theorem run_paddedNumber {width n : Nat} (positive : 0 < width) (fits : n < 10 ^ width)
    (rest : List Char) :
    (paddedNumber width).run ((Text.padded width n).toList ++ rest) = some (n, rest) := by
  have length := Text.length_padded positive fits
  have number : (number width).run ((Text.padded width n).toList ++ rest) = some (n, rest) := by
    rw [run_number (Text.padded_ne_nil width n) (Text.all_isDigit_padded width n)
      (Nat.le_of_eq length) (Or.inl length), Text.valueOf_padded]
  simp [paddedNumber, run_blanks,
    Text.dropBlanks_digits (Text.padded_ne_nil width n) (Text.all_isDigit_padded width n), number]

theorem run_separator {c : Char} (dark : Text.isBlank c = false) (rest : List Char) :
    (separator c).run (c :: rest) = some ((), rest) := by
  simp [separator, run_blanks, Text.dropBlanks, dark, run_discard, run_oneOf]

theorem run_yearPart (year : Int) (rest : List Char) :
    yearPart.run ((writeYear year).toList ++ '-' :: rest) = some (year, '-' :: rest) := by
  have signed (n : Nat) {width : Nat} (long : (Text.padded 4 n).toList.length ≤ width) :
      (number width).run ((Text.padded 4 n).toList ++ '-' :: rest) = some (n, '-' :: rest) := by
    rw [run_number (Text.padded_ne_nil 4 n) (Text.all_isDigit_padded 4 n) long
      (Or.inr (by rintro c ⟨⟩; decide)), Text.valueOf_padded]
  rw [writeYear]
  split
  · rename_i four
    have small : year.toNat < 10 ^ 4 := by omega
    have plain := run_paddedNumber (by decide) small ('-' :: rest)
    rw [paddedNumber, StateT.run_bind, run_blanks,
      Text.dropBlanks_digits (Text.padded_ne_nil 4 _) (Text.all_isDigit_padded 4 _)] at plain
    have back : (year.toNat : Int) = year := Int.toNat_of_nonneg four.1
    have decimal := Text.all_isDigit_padded 4 year.toNat
    rw [yearPart, StateT.run_bind, run_blanks,
      Text.dropBlanks_digits (Text.padded_ne_nil 4 _) decimal]
    cases digits : (Text.padded 4 year.toNat).toList with
    | nil => exact absurd digits (Text.padded_ne_nil 4 _)
    | cons c cs =>
        rw [digits] at plain decimal
        rw [List.cons_append] at plain ⊢
        simp only [Option.bind_eq_bind, Option.bind_some, StateT.run_bind, StateT.run_get,
          Option.pure_def] at plain ⊢
        split
        · rename_i same
          cases same
          simp at decimal
        · rename_i same
          cases same
          simp at decimal
        · simp [plain, back]
  · rename_i more
    split
    · have back : -(year.natAbs : Int) = year := by omega
      simp only [String.toList_append, String.reduceToList, List.cons_append, List.nil_append]
      simp [yearPart, run_blanks, Text.dropBlanks, show Text.isBlank '-' = false by decide]
      exact ⟨year.natAbs, signed _ (by omega), back⟩
    · have back : (year.natAbs : Int) = year := by omega
      simp only [String.toList_append, String.reduceToList, List.cons_append, List.nil_append]
      simp [yearPart, run_blanks, Text.dropBlanks, show Text.isBlank '+' = false by decide]
      exact ⟨year.natAbs, signed _ (by omega), back⟩

theorem run_fractionPart {nanosecond : Nat} (fits : nanosecond < 1000000000) (rest : List Char) :
    fractionPart.run ((writeFraction nanosecond).toList ++ 'Z' :: rest) =
      some (nanosecond, 'Z' :: rest) := by
  have written {width n : Nat} (positive : 0 < width) (short : width ≤ 9) (small : n < 10 ^ width) :
      fractionPart.run ('.' :: ((Text.padded width n).toList ++ 'Z' :: rest)) =
        some (n * 10 ^ (9 - width), 'Z' :: rest) := by
    have length := Text.length_padded positive small
    have all := List.all_eq_true.1 (Text.all_isDigit_padded width n)
    have digits : (((Text.padded width n).toList ++ 'Z' :: rest).take 9).takeWhile Char.isDigit =
        (Text.padded width n).toList := by
      rw [List.take_append, List.take_of_length_le (by omega), List.takeWhile_append_of_pos all]
      cases 9 - (Text.padded width n).toList.length <;> simp
    have nonblank : (((Text.padded width n).toList ++ 'Z' :: rest).take 9).takeWhile Char.isDigit ≠
        [] := digits.symm ▸ Text.padded_ne_nil width n
    rw [fractionPart, run_bind_of (StateT.run_get _)]
    split
    · rename_i same
      cases same
      refine (run_bind_of (run_guard_of nonblank _)).trans ?_
      rw [digits, Text.valueOf_padded, List.drop_left, length]
      rfl
    · rename_i other
      exact absurd rfl (other _)
  rw [writeFraction]
  split
  · rename_i none
    simp [fractionPart, none]
  · split
    · have read := @written 3 (nanosecond / 1000000) (by decide) (by decide) (by omega)
      have value : nanosecond / 1000000 * 10 ^ (9 - 3) = nanosecond := by omega
      rw [value] at read
      simpa using read
    · split
      · have read := @written 6 (nanosecond / 1000) (by decide) (by decide) (by omega)
        have value : nanosecond / 1000 * 10 ^ (9 - 6) = nanosecond := by omega
        rw [value] at read
        simpa using read
      · have read := @written 9 nanosecond (by decide) (by decide) fits
        simpa using read

theorem run_offsetPart : offsetPart.run ['Z'] = some (0, []) := rfl

theorem addMinutes_zero {t : Timestamp} (hour : t.hour < 24) (minute : t.minute < 60) :
    t.addMinutes 0 = t := by
  have clock : ((t.hour * 60 + t.minute : Int) + 0) % minutesPerDay = t.hour * 60 + t.minute := by
    rw [minutesPerDay]
    omega
  have same : ({ t with
      hour := ((t.hour * 60 + t.minute : Int) / 60).toNat
      minute := ((t.hour * 60 + t.minute : Int) % 60).toNat } : Timestamp) = t := by
    have hours : ((t.hour * 60 + t.minute : Int) / 60).toNat = t.hour := by omega
    have minutes : ((t.hour * 60 + t.minute : Int) % 60).toNat = t.minute := by omega
    rw [hours, minutes]
  rw [addMinutes]
  simp only [clock]
  rw [if_neg (by omega), if_neg (by rw [minutesPerDay]; omega), same]

theorem daysIn_le (year : Int) (month : Nat) : daysIn year month ≤ 31 := by
  unfold daysIn
  split
  · split <;> decide
  all_goals decide

theorem run_parts {t : Timestamp} (valid : t.isValid = true) :
    parts.run t.stored.toList = some ((t, 0), []) := by
  simp only [isValid, decide_eq_true_eq] at valid
  have days := daysIn_le t.year t.month
  have written : t.stored.toList = (writeYear t.year).toList ++ '-' ::
      ((Text.padded 2 t.month).toList ++ '-' :: ((Text.padded 2 t.day).toList ++ 'T' ::
        ((Text.padded 2 t.hour).toList ++ ':' :: ((Text.padded 2 t.minute).toList ++ ':' ::
          ((Text.padded 2 t.second).toList ++
            ((writeFraction t.nanosecond).toList ++ ['Z'])))))) := by
    simp only [stored, writeWith, String.toList_append, String.reduceToList, List.append_assoc,
      List.cons_append, List.nil_append]
  have two {n : Nat} (small : n < 10 ^ 2) (rest : List Char) :=
    run_paddedNumber (by decide) small rest
  have month := @two t.month (by omega)
  have day := @two t.day (by omega)
  have hour := @two t.hour (by omega)
  have minute := @two t.minute (by omega)
  have second := @two t.second (by omega)
  have dash := @run_separator '-' (by decide)
  have colon := @run_separator ':' (by decide)
  have between (rest : List Char) :
      (discard (oneOf ['T', 't', ' '])).run ('T' :: rest) = some ((), rest) := by
    rw [run_discard, run_oneOf (by decide), Option.map_some]
  rw [written, parts, run_bind_of (run_yearPart ..), run_bind_of (dash _), run_bind_of (month _),
    run_bind_of (dash _), run_bind_of (day _), run_bind_of (between _), run_bind_of (hour _),
    run_bind_of (colon _), run_bind_of (minute _), run_bind_of (colon _), run_bind_of (second _),
    run_bind_of (run_fractionPart (by omega) _), run_bind_of run_offsetPart]
  rfl

/-- An instant is read back from its stored form. -/
theorem read?_stored {t : Timestamp} (valid : t.isValid = true) : read? t.stored = some t := by
  have inRange := valid
  simp only [isValid, decide_eq_true_eq] at inRange
  have unmoved : t.addMinutes (-0) = t := addMinutes_zero (by omega) (by omega)
  rw [read?, run_parts valid]
  refine (guard_bind ⟨rfl, valid⟩ _).trans ?_
  change (guard ((t.addMinutes (-0)).isValid = true) >>= fun _ => pure (t.addMinutes (-0))) = _
  rw [unmoved]
  exact guard_bind valid _

theorem isValid_of_read? {s : String} {t : Timestamp} (given : read? s = some t) :
    t.isValid = true := by
  rw [read?, Option.bind_eq_bind, Option.bind_eq_some_iff] at given
  rcases given with ⟨⟨⟨instant, offset⟩, rest⟩, -, checked⟩
  rcases Option.bind_eq_some_iff.1 checked with ⟨_, -, moved⟩
  rcases Option.bind_eq_some_iff.1 moved with ⟨_, fits, same⟩
  cases same
  rw [← Bool.not_eq_false]
  intro outside
  have refused : (guard (instant.addMinutes (-offset)).isValid : Option Unit) = none :=
    if_neg (by simp [outside])
  rw [refused] at fits
  cases fits

end Timestamp

end TemplateVars
