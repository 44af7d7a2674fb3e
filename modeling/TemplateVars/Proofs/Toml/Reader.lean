import TemplateVars.Proofs.Toml.Quoted
import TemplateVars.Proofs.Toml.Scalar
import TemplateVars.Toml.Reader

/-!
# Documents are read line by line

A document whose lines are headers and settings under plain names reads as the
statements of its lines, one after another. The fuel that the reader is given is
enough, because every line takes up some of the text.
-/

namespace TemplateVars.Toml

variable {c : Char} {cs rest value : List Char} {name : String} {v : Toml}
  {statement : Statement} {statements : List Statement}

theorem skipBlanks_cons (dark : Quoted.isBlank c = false) (cs : List Char) :
    skipBlanks (c :: cs) = c :: cs :=
  List.dropWhile_cons_of_neg (by simp [dark])

/-- A name that can be a key without quotes. -/
structure Bare (name : String) : Prop where
  nonempty : name.toList ≠ []
  bare : name.toList.all isBare = true

theorem Bare.exists_cons (plain : Bare name) (rest : List Char) :
    ∃ c cs, name.toList ++ rest = c :: cs ∧ isBare c = true := by
  cases shape : name.toList with
  | nil => exact absurd shape plain.nonempty
  | cons c cs =>
      have bare := plain.bare
      rw [shape, List.all_cons, Bool.and_eq_true] at bare
      exact ⟨c, cs ++ rest, rfl, bare.1⟩

theorem not_blank_of_isBare (bare : isBare c = true) :
    Quoted.isBlank c = false ∧ c ≠ '"' ∧ c ≠ '\'' ∧ c ≠ '[' ∧ c ≠ '#' ∧ c ≠ '\n' ∧ c ≠ '\r' := by
  refine ⟨?_, ?_, ?_, ?_, ?_, ?_, ?_⟩
  · rw [← Bool.not_eq_true]
    intro blank
    rw [Quoted.isBlank, Bool.or_eq_true, beq_iff_eq, beq_iff_eq] at blank
    rcases blank with rfl | rfl <;> exact absurd bare (by decide)
  all_goals
    rintro rfl
    exact absurd bare (by decide)

/-- A name is taken as one step of a key, up to the first character that cannot belong to it. -/
theorem readStep_bare (plain : Bare name) (ends : isBare c = false) (rest : List Char) :
    readStep (name.toList ++ c :: rest) = some (name, c :: rest) := by
  have all := List.all_eq_true.1 plain.bare
  have taken : (name.toList ++ c :: rest).takeWhile isBare = name.toList := by
    rw [List.takeWhile_append_of_pos all, List.takeWhile_cons_of_neg (by simp [ends]),
      List.append_nil]
  have left : (name.toList ++ c :: rest).dropWhile isBare = c :: rest := by
    rw [List.dropWhile_append_of_pos all, List.dropWhile_cons_of_neg (by simp [ends])]
  rcases plain.exists_cons (c :: rest) with ⟨d, ds, shape, bare⟩
  rcases not_blank_of_isBare bare with ⟨-, noDouble, noSingle, -⟩
  rw [readStep.eq_def]
  split
  case h_1 same =>
    rw [shape] at same
    exact absurd (List.cons.inj same).1 noDouble
  case h_2 same =>
    rw [shape] at same
    exact absurd (List.cons.inj same).1 noSingle
  case h_3 =>
    simp only [taken, left, String.ofList_toList]
    rw [if_neg (by simpa using plain.nonempty)]

theorem Bare.skipBlanks (plain : Bare name) (rest : List Char) :
    Toml.skipBlanks (name.toList ++ rest) = name.toList ++ rest := by
  rcases plain.exists_cons rest with ⟨c, cs, shape, bare⟩
  rw [shape]
  exact skipBlanks_cons (not_blank_of_isBare bare).1 cs

theorem readKey_bare (plain : Bare name) (ends : isBare c = false) (fuel : Nat) {d : Char}
    {after : List Char} (next : skipBlanks (c :: rest) = d :: after) (noDot : d ≠ '.') :
    readKey (fuel + 1) (name.toList ++ c :: rest) = some ([name], d :: after) := by
  simp only [readKey, plain.skipBlanks, readStep_bare plain ends, Option.bind_eq_bind,
    Option.bind_some, next]
  split
  case h_1 same => exact absurd (List.cons.inj same).1 noDot
  case h_2 => rfl

/-! ### Values -/

/-- A text stands for a value at the end of a line. -/
structure StandsFor (value : List Char) (v : Toml) : Prop where
  dark : ∀ rest, skipBlanks (value ++ '\n' :: rest) = value ++ '\n' :: rest
  reads : ∀ rest, readValue maxDepth (value ++ '\n' :: rest) = some (v, '\n' :: rest)

theorem standsFor_boolean (b : Bool) :
    StandsFor (if b then "true".toList else "false".toList) (.boolean b) := by
  cases b <;> exact ⟨fun _ => rfl, fun _ => rfl⟩

theorem exists_write (s : String) :
    ∃ tail, Quoted.write s = '"' :: tail ∨ Quoted.write s = '\'' :: tail := by
  simp only [Quoted.write]
  cases Quoted.styleOf s.toList with
  | basic => exact ⟨_, Or.inl rfl⟩
  | literal => exact ⟨_, Or.inr rfl⟩
  | basicLines => exact ⟨_, Or.inl rfl⟩
  | literalLines => exact ⟨_, Or.inr rfl⟩

theorem standsFor_string (s : String) : StandsFor (Quoted.write s) (.string s) := by
  have read (rest : List Char) : Quoted.read? (Quoted.write s ++ '\n' :: rest) =
      some (s, '\n' :: rest) := Quoted.read?_write s (by simp) (by simp)
  rcases exists_write s with ⟨tail, shape | shape⟩
  · rw [shape] at read ⊢
    refine ⟨fun rest => skipBlanks_cons (by decide) _, fun rest => ?_⟩
    rw [List.cons_append, readValue, ← List.cons_append, read]
    rfl
  · rw [shape] at read ⊢
    refine ⟨fun rest => skipBlanks_cons (by decide) _, fun rest => ?_⟩
    rw [List.cons_append, readValue, ← List.cons_append, read]
    rfl

theorem standsFor_integer {n : Nat} (small : n ≤ 9223372036854775807) :
    StandsFor (Nat.toDigits 10 n) (.integer n) := by
  have read (rest : List Char) := Scalar.read?_toDigits small rest
  have all := Text.all_isDigit_toDigits n
  cases digits : Nat.toDigits 10 n with
  | nil => exact absurd digits Nat.toDigits_ne_nil
  | cons c ds =>
      rw [digits] at read all
      rw [List.all_cons, Bool.and_eq_true] at all
      have bare : isBare c = true := by simp [isBare, Char.isAlphanum, all.1]
      refine ⟨fun rest => skipBlanks_cons (not_blank_of_isBare bare).1 _, fun rest => ?_⟩
      · rw [readValue.eq_def]
        split
        case h_7 => exact read rest
        all_goals
          rename_i same
          have decimal := all.1
          rw [(List.cons.inj same).1] at decimal
          exact absurd decimal (by decide)

/-! ### Statements -/

/-- A line with a setting. -/
theorem readStatement_entry (plain : Bare name) (stands : StandsFor value v) (rest : List Char) :
    readStatement (name.toList ++ ' ' :: '=' :: ' ' :: (value ++ '\n' :: rest)) =
      some (.entry [name] v, rest) := by
  have key : readKey maxDepth (name.toList ++ ' ' :: '=' :: ' ' :: (value ++ '\n' :: rest)) =
      some ([name], '=' :: ' ' :: (value ++ '\n' :: rest)) :=
    readKey_bare plain (by decide) 78 rfl (by decide)
  have begins : skipBlanks (' ' :: (value ++ '\n' :: rest)) = value ++ '\n' :: rest :=
    stands.dark rest
  have pair : readPair (readValue maxDepth)
      (name.toList ++ ' ' :: '=' :: ' ' :: (value ++ '\n' :: rest)) =
        some (([name], v), '\n' :: rest) := by
    simp only [readPair, Option.bind_eq_bind, key, Option.bind_some, begins, stands.reads]
    rfl
  rcases plain.exists_cons (' ' :: '=' :: ' ' :: (value ++ '\n' :: rest)) with ⟨d, ds, shape, bare⟩
  have noBracket : d ≠ '[' := (not_blank_of_isBare bare).2.2.2.1
  rw [readStatement.eq_def]
  split
  case h_1 same =>
    rw [shape] at same
    exact absurd (List.cons.inj same).1 noBracket
  case h_2 same =>
    rw [shape] at same
    exact absurd (List.cons.inj same).1 noBracket
  case h_3 =>
    rw [pair]
    rfl

/-- A line with the header of a table. -/
theorem readStatement_header (plain : Bare name) (rest : List Char) :
    readStatement ('[' :: (name.toList ++ ']' :: '\n' :: rest)) = some (.header [name], rest) := by
  have key : readKey maxDepth (name.toList ++ ']' :: '\n' :: rest) =
      some ([name], ']' :: '\n' :: rest) :=
    readKey_bare plain (by decide) 78 rfl (by decide)
  rcases plain.exists_cons (']' :: '\n' :: rest) with ⟨d, ds, shape, bare⟩
  have noBracket : d ≠ '[' := (not_blank_of_isBare bare).2.2.2.1
  rw [readStatement.eq_def]
  split
  case h_1 same =>
    rw [shape] at same
    exact absurd (List.cons.inj (List.cons.inj same).2).1 noBracket
  case h_2 same =>
    cases same
    rw [key]
    rfl
  case h_3 other =>
    exact absurd rfl (other _)

/-- A text reads as some statements, however much fuel there is beyond its length. -/
def Holds (cs : List Char) (statements : List Statement) : Prop :=
  ∀ fuel, cs.length < fuel → readStatements fuel cs = some statements

theorem holds_nil : Holds [] [] := by
  intro fuel enough
  cases fuel with
  | zero => exact absurd enough (Nat.not_lt_zero _)
  | succ fuel => rfl

theorem holds_lineBreak (holds : Holds rest statements) : Holds ('\n' :: rest) statements := by
  intro fuel enough
  cases fuel with
  | zero => exact absurd enough (Nat.not_lt_zero _)
  | succ fuel => 
    exact holds fuel (Nat.lt_of_succ_lt_succ enough)

theorem holds_cons (dark : Quoted.isBlank c = false) (ordinary : c ≠ '#' ∧ c ≠ '\n' ∧ c ≠ '\r')
    (reads : readStatement (c :: cs) = some (statement, rest)) (shorter : rest.length ≤ cs.length)
    (holds : Holds rest statements) : Holds (c :: cs) (statement :: statements) := by
  intro fuel enough
  cases fuel with
  | zero => exact absurd enough (Nat.not_lt_zero _)
  | succ fuel =>
      have shorter' : rest.length < fuel :=
        Nat.lt_of_le_of_lt shorter (Nat.lt_of_succ_lt_succ enough)
      rw [readStatements, skipBlanks_cons dark]
      simp only
      rw [if_neg (by simp [ordinary]), reads, Option.bind_eq_bind, Option.bind_some,
        holds fuel shorter']
      rfl

theorem holds_entry (plain : Bare name) (stands : StandsFor value v)
    (holds : Holds rest statements) :
    Holds (name.toList ++ ' ' :: '=' :: ' ' :: (value ++ '\n' :: rest))
      (.entry [name] v :: statements) := by
  have read := readStatement_entry plain stands rest
  rcases plain.exists_cons (' ' :: '=' :: ' ' :: (value ++ '\n' :: rest)) with ⟨d, ds, shape, bare⟩
  have long := congrArg List.length shape
  simp only [List.length_append, List.length_cons] at long
  rcases not_blank_of_isBare bare with ⟨noBlank, -, -, -, ordinary⟩
  rw [shape] at read ⊢
  exact holds_cons noBlank ordinary read (by omega) holds

theorem holds_header (plain : Bare name) (holds : Holds rest statements) :
    Holds ('[' :: (name.toList ++ ']' :: '\n' :: rest)) (.header [name] :: statements) := by
  refine holds_cons (by decide) (by decide) (readStatement_header plain rest) ?_ holds
  simp only [List.length_append, List.length_cons]
  omega

/-- The document of a text with some statements, if no byte order mark comes first. -/
theorem read?_of_holds {s : String} (holds : Holds s.toList statements)
    (noMark : s.toList.head? ≠ some '\ufeff') :
    read? s = (sections none statements).foldlM addToDocument [] := by
  simp only [read?, if_neg noMark]
  rw [holds _ (Nat.lt_succ_self _)]
  rfl

end TemplateVars.Toml
