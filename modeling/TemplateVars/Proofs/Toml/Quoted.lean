import Mathlib.Data.List.TakeWhile
import TemplateVars.Toml.Quoted

/-!
# TOML strings are read back

Whichever way a text is written in, a reader finds the text again and stops
right behind the last quote, unless another quote follows. On several lines a
quote may be part of the text or of the end. A writer never puts more than two
of them in a row, so three of them in a row end the text, and those before them
belong to it.
-/

namespace TemplateVars.Toml.Quoted

variable {c quote : Char} {text rest spelling body : List Char} {run fuel : Nat}

/-! ### Characters -/

/-- How a character is spelled where escapes are. -/
inductive Spells (c : Char) : List Char → Prop
  | itself (plain : isPlain c = true) (noQuote : c ≠ '"') (noBackslash : c ≠ '\\') : Spells c [c]
  /-- What follows the backslash cannot be taken for the rest of a line. -/
  | escaped {e : Char} {digits : List Char}
      (firm : isBlank e = false ∧ e ≠ '\n' ∧ e ≠ '\r')
      (reads : ∀ rest, escape (e :: digits ++ rest) = some (c, rest)) :
      Spells c ('\\' :: e :: digits)

theorem spells_letter {e : Char} (firm : isBlank e = false ∧ e ≠ '\n' ∧ e ≠ '\r')
    (reads : ∀ rest, escape (e :: rest) = some (c, rest)) : Spells c ['\\', e] :=
  .escaped firm reads

theorem codePoint_append {width : Nat} {digits : List Char} (long : digits.length = width)
    (hex : digits.all (Text.isDigitOf 16) = true)
    (valid : (Text.valueOf 16 digits).isValidChar) (rest : List Char) :
    codePoint width (digits ++ rest) = some (Char.ofNat (Text.valueOf 16 digits), rest) := by
  subst long
  simp only [codePoint, List.take_left, List.drop_left]
  rw [if_pos ⟨trivial, hex⟩, if_pos valid]

/-- The digits of an escape, four of them, have the value of the code point. -/
theorem digits_codeEscape : ∀ n < 128,
    let digits := (codeEscape (Char.ofNat n)).drop 2
    digits.length = 4 ∧ digits.all (Text.isDigitOf 16) = true ∧ Text.valueOf 16 digits = n := by
  decide +kernel

theorem spells_codeEscape (small : c.toNat < 128) : Spells c (codeEscape c) := by
  rcases digits_codeEscape c.toNat small with ⟨long, hex, value⟩
  rw [Char.ofNat_toNat] at long hex value
  have valid : (Text.valueOf 16 ((codeEscape c).drop 2)).isValidChar := by
    rw [value]
    exact c.valid
  have split : codeEscape c = '\\' :: 'u' :: (codeEscape c).drop 2 := rfl
  rw [split]
  refine .escaped (by decide) fun rest => ?_
  have read := codePoint_append long hex valid rest
  rw [value, Char.ofNat_toNat] at read
  exact read

theorem spells_escapeChar (noQuote : c ≠ '"') : Spells c (escapeChar false c) := by
  unfold escapeChar
  split
  case h_7 noBackslash =>
    split
    · rename_i control
      rw [Bool.or_eq_true, decide_eq_true_eq, beq_iff_eq] at control
      refine spells_codeEscape ?_
      rcases control with low | rfl
      · exact Nat.lt_trans low (by decide)
      · decide
    · rename_i shown
      rw [Bool.or_eq_true, decide_eq_true_eq, beq_iff_eq, not_or] at shown
      have plain : isPlain c = true := by
        simp [isPlain, Char.not_lt.1 shown.1, shown.2]
      exact .itself plain noQuote noBackslash
  all_goals exact spells_letter (by decide) fun _ => rfl

theorem escapeChar_of_ne (other : c ≠ '\n') : escapeChar true c = escapeChar false c := by
  unfold escapeChar
  split
  case h_3 => exact absurd rfl other
  all_goals rfl

theorem escapeFrom_cons {multiline : Bool} (noQuote : c ≠ '"') :
    escapeFrom multiline run (c :: text) =
      escapeChar multiline c ++ escapeFrom multiline 0 text := by
  rw [escapeFrom]
  exact noQuote

theorem lineBreak?_cons (noBreak : c ≠ '\n') (noReturn : c ≠ '\r') (rest : List Char) :
    lineBreak? (c :: rest) = none := by
  unfold lineBreak?
  split
  case h_1 same => exact absurd (List.cons.inj same).1 noBreak
  case h_2 same => exact absurd (List.cons.inj same).1 noReturn
  case h_3 => rfl

theorem ne_of_isPlain (plain : isPlain c = true) : c ≠ '\n' ∧ c ≠ '\r' := by
  constructor
  · rintro rfl
    exact absurd plain (by decide)
  · rintro rfl
    exact absurd plain (by decide)

/-! ### One line -/

theorem Spells.basic (spells : Spells c spelling) {after : List Char}
    (read : Quoted.basic fuel rest = some (text, after)) :
    Quoted.basic (fuel + 1) (spelling ++ rest) = some (c :: text, after) := by
  cases spells with
  | itself plain noQuote noBackslash =>
      rw [List.singleton_append, Quoted.basic.eq_def]
      simp only
      rw [if_pos plain, read]
      rfl
  | @escaped e digits firm reads =>
      rw [List.cons_append, Quoted.basic.eq_def]
      simp only
      rw [reads, Option.bind_some, read]
      rfl

theorem spells_quote : Spells '"' ['\\', '"'] := spells_letter (by decide) fun _ => rfl

theorem basic_escapeFrom (enough : text.length < fuel) (rest : List Char) :
    basic fuel (escapeFrom false 0 text ++ '"' :: rest) = some (text, rest) := by
  induction text generalizing fuel with
  | nil =>
      cases fuel with
      | zero => exact absurd enough (Nat.not_lt_zero _)
      | succ fuel => rfl
  | cons c text ih =>
      cases fuel with
      | zero => exact absurd enough (Nat.not_lt_zero _)
      | succ fuel =>
          have read := ih (Nat.lt_of_succ_lt_succ enough)
          by_cases isQuote : c = '"'
          · subst isQuote
            exact spells_quote.basic read
          · rw [escapeFrom_cons isQuote, List.append_assoc]
            exact (spells_escapeChar isQuote).basic read

theorem literal_append (plain : ∀ c ∈ text, isPlain c = true) (noQuote : '\'' ∉ text)
    (rest : List Char) : literal (text ++ '\'' :: rest) = some (text, rest) := by
  induction text with
  | nil => rfl
  | cons c text ih =>
      rw [List.forall_mem_cons] at plain
      rw [List.mem_cons, not_or] at noQuote
      rw [List.cons_append, literal, if_neg (Ne.symm noQuote.1), if_pos plain.1,
        ih plain.2 noQuote.2]
      rfl

/-! ### Several lines -/

theorem closing_of_ne (away : text.head? ≠ some quote) : closing quote text = none := by
  have none : (text.takeWhile (· == quote)).length = 0 := by
    cases text with
    | nil => rfl
    | cons c text => 
        rw [List.takeWhile_cons_of_neg]
        · rfl
        · simpa using away
  rw [closing, none]
  rfl

/-- Up to two quotes before the last three belong to the text, if nothing else comes between. -/
theorem closing_append (few : (body.takeWhile (· == quote)).length ≤ 2)
    (ends : rest.head? ≠ some quote) :
    closing quote (body ++ quote :: quote :: quote :: rest) =
      if body.all (· == quote) then some (body, rest) else none := by
  rw [closing]
  by_cases only : body.all (· == quote) = true
  · have whole := List.all_eq_true.1 only
    have stops : rest.takeWhile (· == quote) = [] := by
      cases rest with
      | nil => rfl
      | cons c rest => exact List.takeWhile_cons_of_neg (by simpa using ends)
    have ahead : ((body ++ quote :: quote :: quote :: rest).takeWhile (· == quote)).length =
        body.length + 3 := by
      rw [List.takeWhile_append_of_pos whole]
      simp [stops]
    have short : body.length ≤ 2 := by
      rwa [List.takeWhile_eq_self_iff.2 whole] at few
    have quotes : List.replicate body.length quote = body :=
      (List.eq_replicate_iff.2 ⟨rfl, fun c listed => by simpa using whole c listed⟩).symm
    simp only [ahead, only, if_true, Nat.add_sub_cancel, Nat.min_eq_left short, quotes]
    rw [if_neg (by omega), List.drop_length_add_append]
    rfl
  · have stops : ((body ++ quote :: quote :: quote :: rest).takeWhile (· == quote)) =
        body.takeWhile (· == quote) := by
      rw [List.takeWhile_append, if_neg]
      intro same
      have self := (List.takeWhile_prefix (· == quote)).eq_of_length same
      exact only (List.all_eq_true.2 (List.takeWhile_eq_self_iff.1 self))
    rw [stops, if_pos (Nat.lt_succ_of_le few), if_neg only]

theorem closing_quotes (ends : rest.head? ≠ some quote) :
    closing quote (quote :: quote :: quote :: rest) = some ([], rest) := by
  have few : (([] : List Char).takeWhile (· == quote)).length ≤ 2 := Nat.zero_le 2
  exact closing_append few ends

/-- What does not end the text stands for itself, a quote as well. -/
theorem basicLines_plain {after : List Char} (plain : isPlain c = true) (noBackslash : c ≠ '\\')
    (inside : closing '"' (c :: rest) = none)
    (read : basicLines fuel rest = some (text, after)) :
    basicLines (fuel + 1) (c :: rest) = some (c :: text, after) := by
  have sameLine := lineBreak?_cons (ne_of_isPlain plain).1 (ne_of_isPlain plain).2 rest
  rw [basicLines.eq_def]
  simp only [inside, sameLine]
  rw [if_pos plain, read]
  rfl

theorem Spells.basicLines (spells : Spells c spelling) {after : List Char}
    (read : Quoted.basicLines fuel rest = some (text, after)) :
    Quoted.basicLines (fuel + 1) (spelling ++ rest) = some (c :: text, after) := by
  cases spells with
  | itself plain noQuote noBackslash =>
      exact basicLines_plain plain noBackslash (closing_of_ne (by simpa using noQuote)) read
  | @escaped e digits firm reads =>
      rcases firm with ⟨dark, noBreak, noReturn⟩
      have inside : closing '"' ('\\' :: (e :: digits ++ rest)) = none :=
        closing_of_ne (by simp)
      have sameLine := lineBreak?_cons (c := '\\') (by decide) (by decide) (e :: digits ++ rest)
      have joins : lineBreak? ((e :: digits ++ rest).dropWhile isBlank) = none := by
        rw [List.cons_append, List.dropWhile_cons_of_neg (by simp [dark])]
        exact lineBreak?_cons noBreak noReturn _
      rw [List.cons_append, Quoted.basicLines.eq_def]
      simp only [inside, sameLine, joins]
      rw [reads, Option.bind_some, read]
      rfl

theorem basicLines_lineBreak {after : List Char}
    (read : basicLines fuel rest = some (text, after)) :
    basicLines (fuel + 1) ('\n' :: rest) = some ('\n' :: text, after) := by
  have inside : closing '"' ('\n' :: rest) = none := closing_of_ne (by simp)
  rw [basicLines.eq_def]
  simp only [inside, lineBreak?]
  rw [read]
  rfl

theorem basicLines_closing {after : List Char} (ends : closing '"' rest = some (text, after)) :
    basicLines (fuel + 1) rest = some (text, after) := by
  rw [basicLines.eq_def]
  simp only [ends]

theorem escapeFrom_quote (few : run < 2) (text : List Char) :
    escapeFrom true run ('"' :: text) = '"' :: escapeFrom true (run + 1) text := by
  rw [escapeFrom, if_pos (by simpa using few)]

/-- The third of three quotes is an escape, and the next ones are counted anew. -/
theorem escapeFrom_third_quote (many : ¬ run < 2) (text : List Char) :
    escapeFrom true run ('"' :: text) = ['\\', '"'] ++ escapeFrom true 0 text := by
  rw [escapeFrom, if_neg (by simpa using many)]
  rfl

theorem Spells.exists_cons (spells : Spells c spelling) :
    ∃ d tail, spelling = d :: tail ∧ d ≠ '"' := by
  cases spells with
  | itself plain noQuote noBackslash => exact ⟨c, [], rfl, noQuote⟩
  | @escaped e digits firm reads => exact ⟨'\\', e :: digits, rfl, by decide⟩

/-- No other character begins its spelling with a quote. -/
theorem exists_escapeChar (multiline : Bool) (noQuote : c ≠ '"') :
    ∃ d tail, escapeChar multiline c = d :: tail ∧ d ≠ '"' := by
  have escaped := (spells_escapeChar noQuote).exists_cons
  cases multiline with
  | false => exact escaped
  | true =>
      by_cases isBreak : c = '\n'
      · subst isBreak
        exact ⟨'\n', [], rfl, by decide⟩
      · rwa [escapeChar_of_ne isBreak]

/-- There are never more than two quotes in a row, those that came before included. -/
theorem length_quotes_escapeFrom (few : run ≤ 2) (text : List Char) :
    run + ((escapeFrom true run text).takeWhile (· == '"')).length ≤ 2 := by
  induction text generalizing run with
  | nil => exact few
  | cons c text ih =>
      by_cases isQuote : c = '"'
      · subst isQuote
        by_cases more : run < 2
        · have next : run + 1 + _ ≤ 2 := ih more
          rw [escapeFrom_quote more, List.takeWhile_cons_of_pos (by rfl), List.length_cons]
          omega
        · rw [escapeFrom_third_quote more]
          exact few
      · rcases exists_escapeChar true isQuote with ⟨d, tail, spelled, other⟩
        rw [escapeFrom_cons isQuote, spelled, List.cons_append,
          List.takeWhile_cons_of_neg (by simpa using other)]
        exact few

/-- If nothing but quotes is written, it is the text itself. -/
theorem escapeFrom_eq_of_quotes (only : (escapeFrom true run text).all (· == '"') = true) :
    escapeFrom true run text = text := by
  induction text generalizing run with
  | nil => rfl
  | cons c text ih =>
      by_cases isQuote : c = '"'
      · subst isQuote
        by_cases more : run < 2
        · rw [escapeFrom_quote more, List.all_cons, Bool.and_eq_true] at only
          rw [escapeFrom_quote more, ih only.2]
        · rw [escapeFrom_third_quote more] at only
          cases only
      · rcases exists_escapeChar true isQuote with ⟨d, tail, spelled, other⟩
        rw [escapeFrom_cons isQuote, spelled, List.cons_append, List.all_cons,
          Bool.and_eq_true, beq_iff_eq] at only
        exact absurd only.1 other

theorem basicLines_escapeFrom (few : run ≤ 2) (enough : text.length < fuel)
    (ends : rest.head? ≠ some '"') :
    basicLines fuel (escapeFrom true run text ++ '"' :: '"' :: '"' :: rest) =
      some (text, rest) := by
  induction text generalizing run fuel with
  | nil =>
      cases fuel with
      | zero => exact absurd enough (Nat.not_lt_zero _)
      | succ fuel => exact basicLines_closing (closing_quotes ends)
  | cons c text ih =>
      cases fuel with
      | zero => exact absurd enough (Nat.not_lt_zero _)
      | succ fuel =>
          have shorter : text.length < fuel := Nat.lt_of_succ_lt_succ enough
          by_cases isQuote : c = '"'
          · subst isQuote
            by_cases more : run < 2
            · have ahead := length_quotes_escapeFrom few ('"' :: text)
              have closes := closing_append (Nat.le_trans (Nat.le_add_left _ _) ahead) ends
              by_cases only : (escapeFrom true run ('"' :: text)).all (· == '"') = true
              · rw [if_pos only, escapeFrom_eq_of_quotes only] at closes
                rw [escapeFrom_eq_of_quotes only]
                exact basicLines_closing closes
              · rw [if_neg only] at closes
                rw [escapeFrom_quote more, List.cons_append] at closes ⊢
                exact basicLines_plain (by decide) (by decide) closes (ih more shorter)
            · rw [escapeFrom_third_quote more, List.append_assoc]
              exact spells_quote.basicLines (ih (Nat.zero_le 2) shorter)
          · have read := ih (Nat.zero_le 2) shorter
            rw [escapeFrom_cons isQuote, List.append_assoc]
            by_cases isBreak : c = '\n'
            · subst isBreak
              exact basicLines_lineBreak read
            · rw [escapeChar_of_ne isBreak]
              exact (spells_escapeChar isQuote).basicLines read

/-! ### Several lines without escapes -/

theorem literalLines_closing {after : List Char} (ends : closing '\'' rest = some (text, after)) :
    literalLines (fuel + 1) rest = some (text, after) := by
  rw [literalLines.eq_def]
  simp only [ends]

theorem literalLines_cons {after : List Char} (shown : isPlain c = true ∨ c = '\n')
    (inside : closing '\'' (c :: rest) = none)
    (read : literalLines fuel rest = some (text, after)) :
    literalLines (fuel + 1) (c :: rest) = some (c :: text, after) := by
  rw [literalLines.eq_def]
  rcases shown with plain | rfl
  · have sameLine := lineBreak?_cons (ne_of_isPlain plain).1 (ne_of_isPlain plain).2 rest
    simp only [inside, sameLine]
    rw [if_pos plain, read]
    rfl
  · simp only [inside, lineBreak?]
    rw [read]
    rfl

theorem longestRun_cons (quote : Char) (run : Nat) (c : Char) (text : List Char) :
    longestRun quote (if c = quote then run + 1 else 0) text ≤
      longestRun quote run (c :: text) := by
  rw [longestRun]
  split
  · exact Nat.le_refl _
  · exact Nat.le_max_right ..

theorem le_longestRun (quote : Char) (run : Nat) (text : List Char) :
    run + (text.takeWhile (· == quote)).length ≤ longestRun quote run text := by
  induction text generalizing run with
  | nil => exact Nat.le_refl _
  | cons c text ih =>
      rw [longestRun]
      by_cases isQuote : c = quote
      · have next := ih (run + 1)
        rw [if_pos isQuote, List.takeWhile_cons_of_pos (by simpa using isQuote), List.length_cons]
        omega
      · rw [if_neg isQuote, List.takeWhile_cons_of_neg (by simpa using isQuote)]
        exact Nat.le_max_left ..

theorem not_mem_of_longestRun (none : longestRun quote run text = 0) : quote ∉ text := by
  induction text generalizing run with
  | nil => exact List.not_mem_nil
  | cons c text ih =>
      have ahead := le_longestRun quote run (c :: text)
      have later := longestRun_cons quote run c text
      rw [none] at ahead later
      rw [List.mem_cons, not_or]
      refine ⟨?_, ih (Nat.le_zero.1 later)⟩
      rintro rfl
      rw [List.takeWhile_cons_of_pos (by simp), List.length_cons] at ahead
      omega

theorem literalLines_append (shown : ∀ c ∈ text, isPlain c = true ∨ c = '\n')
    (few : longestRun '\'' run text ≤ 2) (enough : text.length < fuel)
    (ends : rest.head? ≠ some '\'') :
    literalLines fuel (text ++ '\'' :: '\'' :: '\'' :: rest) = some (text, rest) := by
  induction text generalizing run fuel with
  | nil =>
      cases fuel with
      | zero => exact absurd enough (Nat.not_lt_zero _)
      | succ fuel => exact literalLines_closing (closing_quotes ends)
  | cons c text ih =>
      cases fuel with
      | zero => exact absurd enough (Nat.not_lt_zero _)
      | succ fuel =>
          have ahead := Nat.le_trans (le_longestRun '\'' run (c :: text)) few
          have closes := closing_append (Nat.le_trans (Nat.le_add_left _ _) ahead) ends
          by_cases only : (c :: text).all (· == '\'') = true
          · rw [if_pos only] at closes
            exact literalLines_closing closes
          · rw [if_neg only] at closes
            rw [List.forall_mem_cons] at shown
            have fewer := Nat.le_trans (longestRun_cons '\'' run c text) few
            exact literalLines_cons shown.1 closes
              (ih shown.2 fewer (Nat.lt_of_succ_lt_succ enough))

/-! ### All styles -/

theorem isPlain_or_of_not_needsEscape (shown : needsEscape c = false) :
    isPlain c = true ∨ c = '\n' := by
  by_cases isTab : c = '\t'
  · subst isTab
    exact Or.inl rfl
  · by_cases isBreak : c = '\n'
    · exact Or.inr isBreak
    · simp only [needsEscape, Bool.or_eq_false_iff, Bool.and_eq_false_iff, decide_eq_false_iff_not,
        bne_eq_false_iff_eq, beq_eq_false_iff_ne, isTab, isBreak, or_false, Char.not_lt] at shown
      exact Or.inl (by simp [isPlain, shown.1, shown.2])

/-- A text that is written without escapes needs none. -/
theorem shown_of_style (plain : text.any needsEscape = false) :
    ∀ c ∈ text, isPlain c = true ∨ c = '\n' := by
  intro c listed
  exact isPlain_or_of_not_needsEscape (by simpa using List.any_eq_false.1 plain c listed)

theorem of_styleOf_literal (style : styleOf text = .literal) :
    (∀ c ∈ text, isPlain c = true) ∧ '\'' ∉ text ∧ text ≠ [] := by
  have some : text ≠ [] := by
    rintro rfl
    cases style
  simp only [styleOf] at style
  split at style
  · cases style
  · split at style
    · rename_i chosen
      simp only [Bool.and_eq_true, Bool.not_eq_true', decide_eq_true_eq] at chosen
      rcases chosen with ⟨⟨plain, none⟩, noBreak⟩
      refine ⟨fun c listed => ?_, not_mem_of_longestRun none, some⟩
      rcases shown_of_style plain c listed with plain | rfl
      · exact plain
      · simp [listed] at noBreak
    · repeat' split at style
      all_goals cases style

theorem of_styleOf_literalLines (style : styleOf text = .literalLines) :
    (∀ c ∈ text, isPlain c = true ∨ c = '\n') ∧ longestRun '\'' 0 text ≤ 2 := by
  simp only [styleOf] at style
  repeat' split at style
  all_goals try cases style
  rename_i chosen
  simp only [Bool.and_eq_true, Bool.not_eq_true', decide_eq_true_eq] at chosen
  exact ⟨shown_of_style chosen.1, chosen.2⟩

theorem length_le_escapeFrom (multiline : Bool) (run : Nat) (text : List Char) :
    text.length ≤ (escapeFrom multiline run text).length := by
  induction text generalizing run with
  | nil => exact Nat.zero_le _
  | cons c text ih =>
      by_cases isQuote : c = '"'
      · subst isQuote
        have next := ih (run + 1)
        have anew := ih 0
        rw [escapeFrom]
        repeat' split
        all_goals
          simp only [List.length_cons]
          omega
      · rcases exists_escapeChar multiline isQuote with ⟨d, tail, spelled, -⟩
        rw [escapeFrom_cons isQuote, spelled, List.length_append, List.length_cons,
          List.length_cons]
        have later := ih 0
        omega

/-- Between double quotes on one line the first character is no quote. -/
theorem exists_escapeFrom (c : Char) (text : List Char) :
    ∃ d tail, escapeFrom false 0 (c :: text) = d :: tail ∧ d ≠ '"' := by
  by_cases isQuote : c = '"'
  · subst isQuote
    exact ⟨'\\', '"' :: escapeFrom false 0 text, rfl, by decide⟩
  · rcases exists_escapeChar false isQuote with ⟨d, tail, spelled, other⟩
    exact ⟨d, tail ++ escapeFrom false 0 text, by rw [escapeFrom_cons isQuote, spelled]; rfl, other⟩

theorem read?_basic (text : List Char) (ends : rest.head? ≠ some '"') :
    read? ('"' :: (escapeFrom false 0 text ++ '"' :: rest)) = some (String.ofList text, rest) := by
  have enough : text.length < (escapeFrom false 0 text ++ '"' :: rest).length + 1 := by
    have long := length_le_escapeFrom false 0 text
    rw [List.length_append]
    omega
  have line : readLine? ('"' :: (escapeFrom false 0 text ++ '"' :: rest)) =
      some (String.ofList text, rest) := by
    rw [readLine?, basic_escapeFrom enough]
    rfl
  rw [read?.eq_def]
  split
  case h_1 same =>
    have second := (List.cons.inj same).2
    cases text with
    | nil =>
        cases second
        exact absurd rfl ends
    | cons c text =>
        rcases exists_escapeFrom c text with ⟨d, tail, spelled, other⟩
        rw [spelled] at second
        exact absurd (List.cons.inj second).1 other
  case h_2 same => cases same
  case h_3 => exact line

theorem read?_literal (plain : ∀ c ∈ text, isPlain c = true) (noQuote : '\'' ∉ text)
    (nonempty : text ≠ []) (rest : List Char) :
    read? ('\'' :: (text ++ '\'' :: rest)) = some (String.ofList text, rest) := by
  have line : readLine? ('\'' :: (text ++ '\'' :: rest)) = some (String.ofList text, rest) := by
    rw [readLine?, literal_append plain noQuote]
    rfl
  rw [read?.eq_def]
  split
  case h_1 same => cases same
  case h_2 same =>
    cases text with
    | nil => exact absurd rfl nonempty
    | cons c text =>
        have second := (List.cons.inj (List.cons.inj same).2).1
        subst second
        exact absurd List.mem_cons_self noQuote
  case h_3 => exact line

/-- A line break right after three quotes is passed over; there is none if the text has none. -/
theorem getD_lineBreak? (opens : '\n' ∉ text → lineBreak? body = none) :
    (lineBreak? ((if text.contains '\n' then ['\n'] else []) ++ body)).getD
      ((if text.contains '\n' then ['\n'] else []) ++ body) = body := by
  by_cases lines : '\n' ∈ text
  · rw [if_pos (by simpa using lines)]
    rfl
  · rw [if_neg (by simpa using lines), List.nil_append, opens lines]
    rfl

theorem Spells.lineBreak? (spells : Spells c spelling) (rest : List Char) :
    Quoted.lineBreak? (spelling ++ rest) = none := by
  cases spells with
  | itself plain noQuote noBackslash =>
      exact lineBreak?_cons (ne_of_isPlain plain).1 (ne_of_isPlain plain).2 rest
  | escaped firm reads => exact lineBreak?_cons (by decide) (by decide) _

theorem lineBreak?_escapeFrom (noBreak : '\n' ∉ text) (rest : List Char) :
    lineBreak? (escapeFrom true 0 text ++ '"' :: rest) = none := by
  cases text with
  | nil => rfl
  | cons c text =>
      rw [List.mem_cons, not_or] at noBreak
      by_cases isQuote : c = '"'
      · subst isQuote
        rfl
      · rw [escapeFrom_cons isQuote, escapeChar_of_ne (Ne.symm noBreak.1)]
        rw [List.append_assoc]
        exact (spells_escapeChar isQuote).lineBreak? _

theorem read?_basicLines (text : List Char) (ends : rest.head? ≠ some '"') :
    read? ('"' :: '"' :: '"' :: ((if text.contains '\n' then ['\n'] else []) ++
      (escapeFrom true 0 text ++ '"' :: '"' :: '"' :: rest))) =
        some (String.ofList text, rest) := by
  have enough : text.length < (escapeFrom true 0 text ++ '"' :: '"' :: '"' :: rest).length + 1 := by
    have long := length_le_escapeFrom true 0 text
    rw [List.length_append]
    omega
  have opens (noBreak : '\n' ∉ text) := lineBreak?_escapeFrom noBreak ('"' :: '"' :: rest)
  rw [read?.eq_def]
  simp only [getD_lineBreak? opens]
  rw [basicLines_escapeFrom (Nat.zero_le 2) enough ends]
  rfl

theorem read?_literalLines (shown : ∀ c ∈ text, isPlain c = true ∨ c = '\n')
    (few : longestRun '\'' 0 text ≤ 2) (ends : rest.head? ≠ some '\'') :
    read? ('\'' :: '\'' :: '\'' :: ((if text.contains '\n' then ['\n'] else []) ++
      (text ++ '\'' :: '\'' :: '\'' :: rest))) = some (String.ofList text, rest) := by
  have enough : text.length < (text ++ '\'' :: '\'' :: '\'' :: rest).length + 1 := by
    rw [List.length_append]
    omega
  have opens (noBreak : '\n' ∉ text) :
      lineBreak? (text ++ '\'' :: '\'' :: '\'' :: rest) = none := by
    cases text with
    | nil => rfl
    | cons c text =>
        rcases shown c List.mem_cons_self with plain | rfl
        · exact lineBreak?_cons (ne_of_isPlain plain).1 (ne_of_isPlain plain).2 _
        · exact absurd List.mem_cons_self noBreak
  rw [read?.eq_def]
  simp only [getD_lineBreak? opens]
  rw [literalLines_append shown few enough ends]
  rfl

/-- Whatever the text, it is read back from its written form, and nothing is read behind it. -/
theorem read?_write (s : String) (noDouble : rest.head? ≠ some '"')
    (noSingle : rest.head? ≠ some '\'') : read? (write s ++ rest) = some (s, rest) := by
  rw [write]
  cases style : styleOf s.toList with
  | basic =>
      have read := read?_basic s.toList noDouble
      rw [String.ofList_toList] at read
      simpa [Style.quotes, Style.multiline, Style.escaping] using read
  | literal =>
      rcases of_styleOf_literal style with ⟨plain, noQuote, nonempty⟩
      have read := read?_literal plain noQuote nonempty rest
      rw [String.ofList_toList] at read
      simpa [Style.quotes, Style.multiline, Style.escaping] using read
  | basicLines =>
      have read := read?_basicLines s.toList noDouble
      rw [String.ofList_toList] at read
      simpa [Style.quotes, Style.multiline, Style.escaping] using read
  | literalLines =>
      rcases of_styleOf_literalLines style with ⟨shown, few⟩
      have read := read?_literalLines shown few noSingle
      rw [String.ofList_toList] at read
      simpa [Style.quotes, Style.multiline, Style.escaping] using read

/-- Two quotes at the end of a text stand right before the three that end it. -/
example : write "a\n\"\"" = "\"\"\"\na\n\"\"\"\"\"".toList := by decide +kernel

end TemplateVars.Toml.Quoted
