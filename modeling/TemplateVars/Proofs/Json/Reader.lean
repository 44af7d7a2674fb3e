import Mathlib.Data.List.TakeDrop
import TemplateVars.Json.Reader
import TemplateVars.Json.Writer
import TemplateVars.Proofs.Json.Literal
import TemplateVars.Proofs.Text.Numeral

/-!
# Values are read back

A value whose numbers and strings are spelled as the writer spells them is read
back from its text, in either layout and whatever follows it, unless what follows
could belong to a number. The fuel that the reader is given is enough, because
every step of it uses up some of the text.
-/

namespace TemplateVars.Json

/-- A value whose literals are spelled as they are written. -/
inductive Written : Json → Prop
  | null : Written .null
  | bool (b : Bool) : Written (.bool b)
  | number (n : Nat) : Written (.ofNat n)
  | string (s : String) : Written (.ofString s)
  | array {es : List Json} (each : ∀ e ∈ es, Written e) : Written (.array es)
  | object {ms : List (List Char × Json)} (keys : ∀ m ∈ ms, ∃ key, m.1 = Literal.encode key)
      (each : ∀ m ∈ ms, Written m.2) : Written (.object ms)

/-- What may follow a number: nothing that could be part of it. -/
def Ends (rest : List Char) : Prop :=
  ∀ c, rest.head? = some c → c.isDigit = false ∧ c ≠ '.' ∧ c ≠ 'e' ∧ c ≠ 'E'

theorem ends_nil : Ends [] := nofun

theorem ends_cons {c : Char} (other : c.isDigit = false ∧ c ≠ '.' ∧ c ≠ 'e' ∧ c ≠ 'E')
    (rest : List Char) : Ends (c :: rest) := by
  rintro _ ⟨⟩
  exact other

/-! ### Blanks -/

theorem skipSpace_append {blanks : List Char} (blank : blanks.all isSpace = true)
    (cs : List Char) : skipSpace (blanks ++ cs) = skipSpace cs := by
  rw [skipSpace, List.dropWhile_append_of_pos]
  · rfl
  · exact List.all_eq_true.1 blank

theorem skipSpace_cons {c : Char} (dark : isSpace c = false) (cs : List Char) :
    skipSpace (c :: cs) = c :: cs := by
  rw [skipSpace, List.dropWhile_cons_of_neg (by simp [dark])]

theorem all_lineBreak (layout : Layout) (depth : Nat) :
    (layout.lineBreak depth).all isSpace = true := by
  cases layout with
  | compact => rfl
  | indented => simp [Layout.lineBreak, isSpace]

theorem readValue_append {blanks : List Char} (blank : blanks.all isSpace = true) (fuel : Nat)
    (cs : List Char) : readValue fuel (blanks ++ cs) = readValue fuel cs := by
  cases fuel with
  | zero => rw [readValue, readValue]
  | succ fuel => rw [readValue, readValue, skipSpace_append blank]

/-! ### Numbers -/

theorem span_digits {digits : List Char} (decimal : digits.all Char.isDigit = true)
    {rest : List Char} (ends : Ends rest) :
    (digits ++ rest).span Char.isDigit = (digits, rest) := by
  have stop : rest.takeWhile Char.isDigit = [] ∧ rest.dropWhile Char.isDigit = rest := by
    cases rest with
    | nil => exact ⟨rfl, rfl⟩
    | cons c rest => simp [(ends c rfl).1]
  have all := List.all_eq_true.1 decimal
  rw [List.span_eq_takeWhile_dropWhile, List.takeWhile_append_of_pos all,
    List.dropWhile_append_of_pos all, stop.1, stop.2, List.append_nil]

theorem readInteger_toDigits (n : Nat) {rest : List Char} (ends : Ends rest) :
    readInteger (Nat.toDigits 10 n ++ rest) = some (Nat.toDigits 10 n, rest) := by
  rcases Text.canonical_toDigits n with zero | nonzero
  · rw [zero, List.singleton_append, readInteger.eq_def]
    cases rest with
    | nil => rfl
    | cons c rest => simp [(ends c rfl).1]
  · have decimal := Text.all_isDigit_toDigits n
    cases digits : Nat.toDigits 10 n with
    | nil => exact absurd digits Nat.toDigits_ne_nil
    | cons c ds =>
        rw [digits] at nonzero decimal
        rw [readInteger.eq_def]
        split
        · rename_i same
          cases same
          exact absurd rfl nonzero
        · rw [readDigits, span_digits decimal ends]

theorem readNumber_toDigits (n : Nat) {rest : List Char} (ends : Ends rest) :
    readNumber (Nat.toDigits 10 n ++ rest) = some (.ofNat n, rest) := by
  have integer := readInteger_toDigits n ends
  have fraction : readFraction rest = some ([], rest) := by
    rw [readFraction.eq_def]
    split
    · exact absurd rfl (ends '.' rfl).2.1
    · rfl
  have exponent : readExponent rest = some ([], rest) := by
    cases rest with
    | nil => rfl
    | cons c rest => simp [readExponent, (ends c rfl).2.2]
  rw [readNumber]
  · simp [integer, fraction, exponent, ofNat]
  · -- a numeral has no sign
    intro cs same
    have decimal := Text.all_isDigit_toDigits n
    cases digits : Nat.toDigits 10 n with
    | nil => exact Nat.toDigits_ne_nil digits
    | cons c ds =>
        rw [digits] at same decimal
        cases same
        simp at decimal

/-! ### Values -/

/-- A value is read from its text, wherever that stands. -/
def ReadBack (j : Json) : Prop :=
  ∀ layout depth fuel rest, 2 * (render layout depth j).length < fuel → Ends rest →
    readValue fuel (render layout depth j ++ rest) = some (j, rest)

theorem not_isSpace_of_isDigit {c : Char} (digit : c.isDigit = true) : isSpace c = false := by
  rw [Bool.eq_false_iff]
  intro blank
  simp only [isSpace, Bool.or_eq_true, beq_iff_eq] at blank
  rcases blank with ((rfl | rfl) | rfl) | rfl <;> simp at digit

theorem readBack_number (n : Nat) : ReadBack (.ofNat n) := by
  intro layout depth fuel rest enough ends
  have number := readNumber_toDigits n ends
  have decimal := Text.all_isDigit_toDigits n
  rw [ofNat, render]
  cases fuel with
  | zero => omega
  | succ fuel =>
      cases digits : Nat.toDigits 10 n with
      | nil => exact absurd digits Nat.toDigits_ne_nil
      | cons c ds =>
          rw [ofNat, digits] at number
          rw [digits, List.all_cons, Bool.and_eq_true] at decimal
          rw [List.cons_append, readValue, skipSpace_cons (not_isSpace_of_isDigit decimal.1)]
          split
          case h_7 => exact number
          all_goals
            rename_i same
            injection same with first
            rw [first] at decimal
            simp at decimal

theorem readBack_string (s : String) : ReadBack (.ofString s) := by
  intro layout depth fuel rest enough _
  rw [ofString, render, quoted]
  cases fuel with
  | zero => omega
  | succ fuel =>
      simp only [List.cons_append, List.append_assoc, List.nil_append]
      rw [readValue, skipSpace_cons (by decide)]
      simp only [Literal.scan_encode, Option.map_some]

theorem readBack_null : ReadBack .null := by
  intro layout depth fuel rest enough _
  cases fuel with
  | zero => omega
  | succ fuel =>
      rw [render, List.cons_append, readValue, skipSpace_cons (by decide)]
      rfl

theorem readBack_bool (b : Bool) : ReadBack (.bool b) := by
  intro layout depth fuel rest enough _
  cases fuel with
  | zero => omega
  | succ fuel =>
      cases b <;>
      · rw [render, List.cons_append, readValue, skipSpace_cons (by decide)]
        rfl

/-- The text of a value starts with a character that is no blank and closes nothing. -/
theorem Written.head {j : Json} (written : Written j) (layout : Layout) (depth : Nat) :
    ∃ c cs, render layout depth j = c :: cs ∧ isSpace c = false ∧ c ≠ ']' := by
  cases written with
  | null => exact ⟨_, _, rfl, by decide, by decide⟩
  | bool b => cases b <;> exact ⟨_, _, rfl, by decide, by decide⟩
  | number n =>
      have decimal := Text.all_isDigit_toDigits n
      rw [ofNat, render]
      cases digits : Nat.toDigits 10 n with
      | nil => exact absurd digits Nat.toDigits_ne_nil
      | cons c ds =>
          rw [digits, List.all_cons, Bool.and_eq_true] at decimal
          refine ⟨c, ds, rfl, not_isSpace_of_isDigit decimal.1, ?_⟩
          rintro rfl
          simp at decimal
  | string s => exact ⟨_, _, rfl, by decide, by decide⟩
  | array each => exact ⟨_, _, by rw [render]; rfl, by decide, by decide⟩
  | object keys each => exact ⟨_, _, by rw [render]; rfl, by decide, by decide⟩

/-- Blanks and a closing bracket. -/
theorem ends_closing {blanks : List Char} (blank : blanks.all isSpace = true) {close : Char}
    (closes : close = ']' ∨ close = '\x7d') (rest : List Char) :
    Ends (blanks ++ close :: rest) := by
  cases blanks with
  | nil => rcases closes with rfl | rfl <;> exact ends_cons (by decide) _
  | cons c blanks =>
      rw [List.all_cons, Bool.and_eq_true] at blank
      apply ends_cons
      have space := blank.1
      simp only [isSpace, Bool.or_eq_true, beq_iff_eq] at space
      rcases space with ((rfl | rfl) | rfl) | rfl <;> decide

section Sequences

variable {layout : Layout} {depth fuel : Nat} {blanks : List Char}
  (blank : blanks.all isSpace = true)

include blank

theorem readElements_render {es : List Json} (each : ∀ e ∈ es, ReadBack e) (nonempty : es ≠ [])
    (enough : 2 * (renderElements layout depth es).length + 1 < fuel) (rest : List Char) :
    readElements fuel (renderElements layout depth es ++ (blanks ++ ']' :: rest)) =
      some (es, rest) := by
  induction es generalizing fuel with
  | nil => exact absurd rfl nonempty
  | cons e es ih =>
      cases fuel with
      | zero => omega
      | succ fuel =>
          have own : ReadBack e := each e List.mem_cons_self
          simp only [renderElements, List.length_append] at enough
          rw [renderElements, readElements]
          simp only [List.append_assoc]
          rw [readValue_append (all_lineBreak layout depth)]
          cases es with
          | nil =>
              have ends : Ends (blanks ++ ']' :: rest) := ends_closing blank (Or.inl rfl) rest
              simp only [List.isEmpty_nil, comma, if_true, renderElements, List.nil_append]
              rw [own layout depth fuel _ (by omega) ends]
              simp only [skipSpace_append blank, skipSpace_cons (c := ']') (by decide)]
          | cons e' es =>
              simp only [List.isEmpty_cons, comma, Bool.false_eq_true, if_false,
                List.length_singleton] at enough
              have short : 2 * (renderElements layout depth (e' :: es)).length + 1 < fuel := by
                omega
              have later := ih (fun x listed => each x (List.mem_cons_of_mem _ listed))
                (List.cons_ne_nil _ _) short
              simp only [List.isEmpty_cons, comma, Bool.false_eq_true, if_false, List.cons_append,
                List.nil_append]
              rw [own layout depth fuel _ (by omega) (ends_cons (by decide) _)]
              simp only [skipSpace_cons (c := ',') (by decide), later, Option.map_some]

omit blank in
theorem exists_colon (layout : Layout) (cs : List Char) :
    ∃ gap, gap.all isSpace = true ∧ skipSpace (layout.colon ++ cs) = ':' :: (gap ++ cs) := by
  cases layout with
  | compact => exact ⟨[], rfl, skipSpace_cons (by decide) _⟩
  | indented => exact ⟨[' '], by decide, skipSpace_cons (by decide) _⟩

omit blank in
/-- A member is read with its colon, as the last one or with those after the comma. -/
theorem readMembers_member (key : String) {value : Json} (own : ReadBack value)
    (enough : 2 * (render layout depth value).length < fuel) {tail : List Char}
    (ends : Ends tail) {ms : List (List Char × Json)} {rest : List Char}
    (others : skipSpace tail = '}' :: rest ∧ ms = [] ∨
      ∃ more, skipSpace tail = ',' :: more ∧ readMembers fuel more = some (ms, rest)) :
    readMembers (fuel + 1) (layout.lineBreak depth ++ (quoted (Literal.encode key) ++
      (layout.colon ++ (render layout depth value ++ tail)))) =
        some ((Literal.encode key, value) :: ms, rest) := by
  rcases exists_colon layout (render layout depth value ++ tail) with ⟨gap, gapBlank, colon⟩
  rw [readMembers, skipSpace_append (all_lineBreak layout depth)]
  simp only [quoted, List.append_assoc, List.cons_append, skipSpace_cons (c := '"') (by decide),
    List.nil_append, Literal.scan_encode, colon, readValue_append gapBlank,
    own layout depth fuel _ enough ends]
  rcases others with ⟨closes, rfl⟩ | ⟨more, comma, later⟩
  · simp only [closes]
  · simp only [comma, later, Option.map_some]

theorem readElements_append (cs : List Char) :
    readElements fuel (blanks ++ cs) = readElements fuel cs := by
  cases fuel with
  | zero => rw [readElements, readElements]
  | succ fuel => rw [readElements, readElements, readValue_append blank]

theorem readMembers_append (cs : List Char) :
    readMembers fuel (blanks ++ cs) = readMembers fuel cs := by
  cases fuel with
  | zero => rw [readMembers, readMembers]
  | succ fuel => rw [readMembers, readMembers, skipSpace_append blank]

theorem readMembers_render {ms : List (List Char × Json)}
    (keys : ∀ m ∈ ms, ∃ key, m.1 = Literal.encode key) (each : ∀ m ∈ ms, ReadBack m.2)
    (nonempty : ms ≠ []) (enough : 2 * (renderMembers layout depth ms).length + 1 < fuel)
    (rest : List Char) :
    readMembers fuel (renderMembers layout depth ms ++ (blanks ++ '}' :: rest)) =
      some (ms, rest) := by
  induction ms generalizing fuel with
  | nil => exact absurd rfl nonempty
  | cons m ms ih =>
      rcases m with ⟨literal, value⟩
      cases fuel with
      | zero => omega
      | succ fuel =>
          have own : ReadBack value := each (literal, value) List.mem_cons_self
          rcases keys (literal, value) List.mem_cons_self with ⟨key, rfl⟩
          simp only [renderMembers, List.length_append] at enough
          rw [renderMembers]
          simp only [List.append_assoc]
          cases ms with
          | nil =>
              have ends : Ends (blanks ++ '}' :: rest) := ends_closing blank (Or.inr rfl) rest
              simp only [List.isEmpty_nil, comma, if_true, renderMembers, List.nil_append]
              refine readMembers_member key own (by omega) ends (Or.inl ⟨?_, rfl⟩)
              rw [skipSpace_append blank, skipSpace_cons (by decide)]
          | cons m' ms =>
              simp only [List.isEmpty_cons, comma, Bool.false_eq_true, if_false,
                List.length_singleton] at enough
              have short : 2 * (renderMembers layout depth (m' :: ms)).length + 1 < fuel := by omega
              have later := ih (fun x listed => keys x (List.mem_cons_of_mem _ listed))
                (fun x listed => each x (List.mem_cons_of_mem _ listed)) (List.cons_ne_nil _ _)
                short
              simp only [List.isEmpty_cons, comma, Bool.false_eq_true, if_false, List.cons_append,
                List.nil_append]
              exact readMembers_member key own (by omega) (ends_cons (by decide) _)
                (Or.inr ⟨_, skipSpace_cons (by decide) _, later⟩)

end Sequences

theorem all_closing (layout : Layout) (depth : Nat) (empty : Bool) :
    (layout.closing depth empty).all isSpace = true := by
  cases empty with
  | true => rfl
  | false => exact all_lineBreak layout depth

theorem readBack_array {es : List Json} (written : ∀ e ∈ es, Written e)
    (each : ∀ e ∈ es, ReadBack e) : ReadBack (.array es) := by
  intro layout depth fuel rest enough _
  cases fuel with
  | zero => omega
  | succ fuel =>
      simp only [render, List.length_append, List.length_cons] at enough
      simp only [render, List.cons_append, List.append_assoc, List.nil_append]
      rw [readValue, skipSpace_cons (by decide)]
      cases es with
      | nil => simp [renderElements, Layout.closing, skipSpace_cons (c := ']') (by decide)]
      | cons e es =>
          have elements : readElements fuel (renderElements layout (depth + 1) (e :: es) ++
              (layout.closing depth (e :: es).isEmpty ++ ']' :: rest)) = some (e :: es, rest) :=
            readElements_render (all_closing ..) each (List.cons_ne_nil e es) (by omega) rest
          rcases (written e List.mem_cons_self).head layout (depth + 1) with
            ⟨c, cs, starts, dark, other⟩
          simp only [renderElements, List.append_assoc] at elements ⊢
          rw [readElements_append (all_lineBreak ..)] at elements
          rw [starts, List.cons_append] at elements ⊢
          simp only [skipSpace_append (all_lineBreak ..), skipSpace_cons dark]
          split
          · rename_i same
            injection same with first
            exact absurd first other
          · rw [elements]
            rfl

theorem readBack_object {ms : List (List Char × Json)}
    (keys : ∀ m ∈ ms, ∃ key, m.1 = Literal.encode key) (each : ∀ m ∈ ms, ReadBack m.2) :
    ReadBack (.object ms) := by
  intro layout depth fuel rest enough _
  cases fuel with
  | zero => omega
  | succ fuel =>
      simp only [render, List.length_append, List.length_cons] at enough
      simp only [render, List.cons_append, List.append_assoc, List.nil_append]
      rw [readValue, skipSpace_cons (by decide)]
      cases ms with
      | nil => simp [renderMembers, Layout.closing, skipSpace_cons (c := '}') (by decide)]
      | cons m ms =>
          have members : readMembers fuel (renderMembers layout (depth + 1) (m :: ms) ++
              (layout.closing depth (m :: ms).isEmpty ++ '}' :: rest)) = some (m :: ms, rest) :=
            readMembers_render (all_closing ..) keys each (List.cons_ne_nil m ms) (by omega) rest
          simp only [renderMembers, List.append_assoc] at members ⊢
          rw [readMembers_append (all_lineBreak ..)] at members
          rw [quoted, List.append_assoc, List.cons_append] at members ⊢
          simp only [skipSpace_append (all_lineBreak ..), skipSpace_cons (c := '"') (by decide)]
          split
          · rename_i same
            cases same
          · rw [members]
            rfl

theorem Written.readBack {j : Json} (written : Written j) : ReadBack j := by
  induction written with
  | null => exact readBack_null
  | bool b => exact readBack_bool b
  | number n => exact readBack_number n
  | string s => exact readBack_string s
  | array written each => exact readBack_array written each
  | object keys _ each => exact readBack_object keys each

/-- Writing a value in any layout and reading the text gives the value again. -/
theorem Written.read?_write {j : Json} (written : Written j) (layout : Layout) :
    read? (j.write layout) = some j := by
  have back := written.readBack layout 0 (2 * (render layout 0 j).length + 2) [] (by omega) ends_nil
  rw [List.append_nil] at back
  simp [read?, write, back, skipSpace]

end TemplateVars.Json
