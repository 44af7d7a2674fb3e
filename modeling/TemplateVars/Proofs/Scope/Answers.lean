import TemplateVars.Proofs.Scope.Gap
import TemplateVars.Proofs.Scope.Spelling

/-!
# The keys that answer to a name

A name that is a position is answered for by its number and by its digits, any
other name by itself and, where case does not count, by each of its spellings.
Looking up and removing are written apart but go by the same keys: a frame holds
a name exactly if one of them is bound, that is what removing the name reports,
and afterwards none of them is.
-/

namespace TemplateVars

namespace Key

/-- The lower-case form of a name that is a key. -/
def lower? : Key → Option String
  | .numbered _ => none
  | .named k => some (Text.lower k)

/-- Whether a key answers to a name. -/
def Answers (name : String) (anyCase : Bool) (key : Key) : Prop :=
  key = parse name ∨ key = .named name ∨
    anyCase = true ∧ Text.isDigits name = false ∧ key.lower? = some (Text.lower name)

instance (name : String) (anyCase : Bool) (key : Key) : Decidable (key.Answers name anyCase) :=
  inferInstanceAs (Decidable (_ ∨ _ ∨ _))

variable {name other : String} {anyCase : Bool} {key : Key}

theorem isDigits_of_position? {n : Nat} (position : position? name = some n) :
    Text.isDigits name = true := by
  rw [position?] at position
  split at position
  · rename_i canonical
    rw [Text.isCanonical, Bool.and_eq_true] at canonical
    exact canonical.1
  · cases position

theorem answers_of_digits (digits : Text.isDigits name = true) :
    key.Answers name anyCase ↔ key = parse name ∨ key = .named name := by
  simp [Answers, digits]

theorem answers_position {n : Nat} (small : n ≤ maxPosition) :
    key.Answers (toString n) anyCase ↔ key.index? = some n := by
  have position := position?_toString small
  rw [answers_of_digits (isDigits_of_position? position), parse_eq_numbered.2 ⟨rfl, small⟩]
  cases key with
  | numbered k => simp [index?]
  | named k => simp [index?, position?_eq_some, small]

theorem answers_exactly : key.Answers name false ↔ key = parse name ∨ key = .named name := by
  simp [Answers]

theorem answers_spelling (word : Text.isDigits name = false) :
    key.Answers name true ↔ key.lower? = some (Text.lower name) := by
  simp only [Answers, parse_of_word word, word, true_and]
  constructor
  · rintro (rfl | rfl | same)
    · rfl
    · rfl
    · exact same
  · exact fun same => Or.inr (Or.inr same)

theorem Answers.mono {inCase : Bool} (answers : key.Answers name inCase)
    (within : inCase = true → anyCase = true) : key.Answers name anyCase := by
  rcases answers with routed | named | ⟨any, word, same⟩
  · exact Or.inl routed
  · exact Or.inr (Or.inl named)
  · exact Or.inr (Or.inr ⟨within any, word, same⟩)

/-- A name whose own key answers to another name is answered for by all that answers to that. -/
theorem Answers.of_parse {inCase : Bool} (answers : key.Answers other inCase)
    (own : (parse name).Answers other inCase) : key.Answers name inCase := by
  rcases own with routed | named | ⟨any, word, same⟩
  · rwa [parse_injective routed]
  · rwa [(parse_eq_named.1 named).1]
  · subst any
    rw [answers_spelling word] at answers
    cases routed : parse name with
    | numbered n => simp [routed, lower?] at same
    | named k =>
        rw [routed, (parse_eq_named.1 routed).1.symm] at same
        have folded := Option.some.inj same
        rw [answers_spelling ((Text.isDigits_of_lower_eq folded).trans word), answers, folded]

/-- What answers to a name exactly answers to another one only as one of its spellings. -/
theorem not_answers_of_ne (different : other ≠ name)
    (apart : anyCase = true → Text.isDigits name = false → Text.lower other ≠ Text.lower name)
    (answers : key.Answers other false) : ¬ key.Answers name anyCase := by
  have position {k : String} (routed : parse other = .named k) : k = other :=
    (parse_eq_named.1 routed).1.symm
  rintro (routed | named | ⟨any, word, same⟩) <;>
    rcases answers_exactly.1 answers with routed' | named'
  · exact different (parse_injective (routed'.symm.trans routed))
  · exact different (parse_eq_named.1 (routed.symm.trans named')).1.symm
  · exact different (position (routed'.symm.trans named)).symm
  · exact different (Key.named.inj (named'.symm.trans named))
  · subst routed'
    cases key : parse other with
    | numbered n => simp [key, lower?] at same
    | named k =>
        rw [key, position key] at same
        exact apart any word (Option.some.inj same)
  · subst named'
    exact apart any word (Option.some.inj same)

/-- The digits of a position that is bound as a number: no look-up comes to them. -/
def Shadowed (key : Key) (ref? : Key → Option NodeRef) : Prop :=
  ∃ n ≤ maxPosition, key = .named (toString n) ∧ (ref? (.numbered n)).isSome

theorem Shadowed.mono {ref? ref?' : Key → Option NodeRef} (shadowed : key.Shadowed ref?)
    (grown : ∀ n, (ref? (.numbered n)).isSome → (ref?' (.numbered n)).isSome) :
    key.Shadowed ref?' := by
  rcases shadowed with ⟨n, small, same, bound⟩
  exact ⟨n, small, same, grown n bound⟩

theorem not_shadowed_numbered {ref? : Key → Option NodeRef} (n : Nat) :
    ¬ (numbered n).Shadowed ref? := by
  simp [Shadowed]

/-- A name is shadowed exactly where it is routed to another key that is bound. -/
theorem shadowed_named_iff {ref? : Key → Option NodeRef} :
    (named name).Shadowed ref? ↔ parse name ≠ .named name ∧ (ref? (parse name)).isSome := by
  constructor
  · rintro ⟨n, small, same, bound⟩
    rw [parse_eq_numbered.2 ⟨Key.named.inj same, small⟩]
    exact ⟨nofun, bound⟩
  · rintro ⟨apart, bound⟩
    cases routed : parse name with
    | numbered n =>
        rcases parse_eq_numbered.1 routed with ⟨rfl, small⟩
        exact ⟨n, small, rfl, routed ▸ bound⟩
    | named k =>
        rw [(parse_eq_named.1 routed).1] at apart
        exact absurd ((parse_eq_named.1 routed).1 ▸ routed) apart

theorem not_shadowed_of_word {ref? : Key → Option NodeRef} (word : Text.isDigits name = false) :
    ¬ (named name).Shadowed ref? := by
  simp [shadowed_named_iff, parse_of_word word]

theorem not_shadowed_parse {ref? : Key → Option NodeRef} (name : String) :
    ¬ (parse name).Shadowed ref? := by
  cases routed : parse name with
  | numbered n => exact not_shadowed_numbered n
  | named k =>
      have own : parse k = .named k := (parse_eq_named.1 routed).1 ▸ routed
      simp [shadowed_named_iff, own]

theorem Answers.ne_parse (answers : key.Answers other false) (different : other ≠ name) :
    key ≠ parse name := by
  rintro rfl
  rcases answers_exactly.1 answers with routed | digits
  · exact different (parse_injective routed).symm
  · exact different (parse_eq_named.1 digits).1.symm

end Key

namespace Frame

variable {f : Frame} {name other : String} {anyCase : Bool} {key : Key}

theorem mem_spellings {k : String} :
    k ∈ f.spellings name ↔ (f.ref? (.named k)).isSome ∧ Text.lower k = Text.lower name := by
  simp [spellings, OrderedMap.mem_keys, ref?]

theorem answers_of_locate (located : f.locate name anyCase = some key) :
    key.Answers name anyCase ∧ (f.ref? key).isSome := by
  rw [locate] at located
  split at located
  · rename_i bound
    cases located
    exact ⟨Or.inl rfl, bound⟩
  · split at located
    · rename_i bound
      cases located
      exact ⟨Or.inr (Or.inl rfl), bound⟩
    · split at located
      · rename_i folds
        rcases Option.map_eq_some_iff.1 located with ⟨k, last, rfl⟩
        rw [Bool.and_eq_true, Bool.not_eq_true'] at folds
        have spelled := mem_spellings.1 (List.mem_of_getLast? last)
        exact ⟨Or.inr (Or.inr ⟨folds.1, folds.2, congrArg some spelled.2⟩), spelled.1⟩
      · cases located

/-- A name is found exactly if one of the keys that answer to it is bound. -/
theorem isSome_locate_iff :
    (f.locate name anyCase).isSome ↔
      ∃ key : Key, key.Answers name anyCase ∧ (f.ref? key).isSome := by
  constructor
  · intro found
    rcases Option.isSome_iff_exists.1 found with ⟨key, located⟩
    exact ⟨key, answers_of_locate located⟩
  · rintro ⟨key, answers, bound⟩
    rw [locate]
    split
    · rfl
    · rename_i routed
      split
      · rfl
      · rename_i named
        rcases answers with rfl | rfl | ⟨any, word, same⟩
        · exact absurd bound routed
        · exact absurd bound named
        · cases key with
          | numbered n => cases same
          | named k =>
              have spelled : k ∈ f.spellings name :=
                mem_spellings.2 ⟨bound, Option.some.inj same⟩
              have last : (f.spellings name).getLast?.isSome :=
                List.getLast?_isSome.2 (List.ne_nil_of_mem spelled)
              simpa [any, word] using last

/-- The names that are dropped for one that is not a position are those that answer to it. -/
theorem mem_targets {k : String} (word : Key.position? name = none) :
    k ∈ (if anyCase && !Text.isDigits name then f.spellings name
      else if f.named.contains name then [name] else []) ↔
      (Key.named k).Answers name anyCase ∧ (f.ref? (.named k)).isSome := by
  have routed : Key.parse name = .named name := Key.parse_eq_named.2 ⟨rfl, word⟩
  simp only [Key.Answers, routed, Key.named.injEq, Key.lower?, Option.some.injEq, or_self_left]
  split
  · rename_i folds
    rw [Bool.and_eq_true, Bool.not_eq_true'] at folds
    rw [mem_spellings]
    constructor
    · exact fun spelled => ⟨Or.inr ⟨folds.1, folds.2, spelled.2⟩, spelled.1⟩
    · rintro ⟨rfl | ⟨-, -, same⟩, bound⟩
      · exact ⟨bound, rfl⟩
      · exact ⟨bound, same⟩
  · rename_i exactly
    have folds :
        ¬(anyCase = true ∧ Text.isDigits name = false ∧ Text.lower k = Text.lower name) := by
      rintro ⟨any, word, -⟩
      simp [any, word] at exactly
    rw [or_iff_left folds]
    split
    · rename_i bound
      rw [List.mem_singleton]
      exact (and_iff_left_of_imp fun same => same ▸ bound).symm
    · rename_i free
      refine ⟨nofun, ?_⟩
      rintro ⟨rfl, bound⟩
      exact absurd bound free

/-- Removing a name reports whether one of the keys that answer to it was bound. -/
theorem unset_eq_true_iff {shift : Bool} : (f.unset name anyCase shift).2 = true ↔
    ∃ key : Key, key.Answers name anyCase ∧ (f.ref? key).isSome := by
  cases routed : Key.parse name with
  | numbered n =>
      rcases Key.parse_eq_numbered.1 routed with ⟨rfl, small⟩
      have digits := Key.isDigits_of_position? (Key.position?_toString small)
      rw [unset_position small, Bool.or_eq_true]
      simp only [Key.answers_of_digits digits, routed, or_and_right, exists_or, exists_eq_left]
      rfl
  | named k =>
      rcases Key.parse_eq_named.1 routed with ⟨rfl, word⟩
      rw [unset, routed, Bool.not_eq_true', List.isEmpty_eq_false_iff_exists_mem]
      simp only [mem_targets word]
      constructor
      · rintro ⟨k, held⟩
        exact ⟨.named k, held⟩
      · rintro ⟨key, answers, bound⟩
        cases key with
        | numbered n => simp [Key.Answers, routed, Key.lower?] at answers
        | named k => exact ⟨k, answers, bound⟩

/-- Removing a name reports whether it could be found. -/
theorem unset_snd (f : Frame) (name : String) (anyCase shift : Bool) :
    (f.unset name anyCase shift).2 = (f.locate name anyCase).isSome := by
  rw [Bool.eq_iff_iff, unset_eq_true_iff, isSome_locate_iff]

/-- Removing a name without closing a gap drops the keys that answer to it. -/
theorem rearranges_unset_inPlace (bound : f.TextsBound) (name : String) (anyCase : Bool) :
    f.Rearranges (f.unset name anyCase false).1
      fun key => if key.Answers name anyCase then none else some key := by
  cases routed : Key.parse name with
  | numbered n =>
      rcases Key.parse_eq_numbered.1 routed with ⟨rfl, small⟩
      rw [unset_position small]
      refine (f.rearranges_erase_position small).congr ?_
      intro key
      simp only [Key.answers_position small]
  | named k =>
      rcases Key.parse_eq_named.1 routed with ⟨rfl, word⟩
      rw [unset, routed]
      refine (rearranges_foldl_erase _ f).congr_of_bound bound ?_ ?_
      · intro key there
        cases key with
        | numbered n => simp [Key.Answers, routed, Key.lower?]
        | named k' =>
            simp only [List.mem_map, Key.named.injEq, exists_eq_right, mem_targets word,
              and_iff_left there]
      · intro old key moved
        split at moved
        · cases moved
        · cases moved
          exact id

/-- Where a binding goes when a name is removed. -/
def unsetMove (name : String) (anyCase shift : Bool) : Key → Option Key :=
  match Key.parse name, shift with
  | .numbered gap, true => closeGap gap
  | _, _ => fun key => if key.Answers name anyCase then none else some key

theorem rearranges_unset (bound : f.TextsBound) (name : String) (anyCase shift : Bool) :
    f.Rearranges (f.unset name anyCase shift).1 (unsetMove name anyCase shift) := by
  cases shift with
  | false =>
      have inPlace := rearranges_unset_inPlace bound name anyCase
      cases routed : Key.parse name <;> simpa only [unsetMove, routed] using inPlace
  | true =>
      cases routed : Key.parse name with
      | numbered gap =>
          rcases Key.parse_eq_numbered.1 routed with ⟨rfl, small⟩
          simpa only [unsetMove, routed] using rearranges_unset_position bound small anyCase
      | named k =>
          have inPlace := rearranges_unset_inPlace bound name anyCase
          rw [unset, routed] at inPlace ⊢
          simpa only [unsetMove, routed] using inPlace

/-! ### New bindings -/

/-- Looking up a name comes to no key but those that answer to it and are not shadowed. -/
theorem locate_congr {g : Frame}
    (refs : ∀ key : Key, key.Answers name anyCase → ¬ key.Shadowed f.ref? →
      (g.ref? key).isSome = (f.ref? key).isSome)
    (order : anyCase = true → Text.isDigits name = false →
      (g.spellings name).getLast? = (f.spellings name).getLast?) :
    g.locate name anyCase = f.locate name anyCase := by
  simp only [locate, refs _ (Or.inl rfl) (Key.not_shadowed_parse name)]
  split
  · rfl
  · rename_i free
    rw [refs _ (Or.inr (Or.inl rfl)) fun shadowed => free (Key.shadowed_named_iff.1 shadowed).2]
    cases folds : anyCase && !Text.isDigits name with
    | false => simp
    | true =>
        rw [Bool.and_eq_true, Bool.not_eq_true'] at folds
        rw [order folds.1 folds.2]

theorem not_shadowed_of_locate (located : f.locate name anyCase = some key) :
    ¬ key.Shadowed f.ref? := by
  rw [locate] at located
  split at located
  · cases located
    exact Key.not_shadowed_parse name
  · rename_i free
    split at located
    · cases located
      exact fun shadowed => free (Key.shadowed_named_iff.1 shadowed).2
    · split at located
      · rename_i folds
        rcases Option.map_eq_some_iff.1 located with ⟨k, last, rfl⟩
        rw [Bool.and_eq_true, Bool.not_eq_true'] at folds
        apply Key.not_shadowed_of_word
        rw [Text.isDigits_of_lower_eq (mem_spellings.1 (List.mem_of_getLast? last)).2]
        exact folds.2
      · cases located

theorem locate_of_digits (digits : Text.isDigits name = true) :
    f.locate name anyCase = f.locate name false := by
  simp [locate, digits]

theorem spellings_insert (ref : NodeRef) (different : key.lower? ≠ some (Text.lower name)) :
    (f.insert key ref).spellings name = f.spellings name := by
  cases key with
  | numbered n => rfl
  | named k =>
      have apart : (Text.lower k == Text.lower name) = false := by
        simpa [Key.lower?] using different
      have keys : (f.insert (.named k) ref).named.keys =
          if k ∈ f.named.keys then f.named.keys else f.named.keys ++ [k] :=
        OrderedMap.keys_insert ..
      rw [spellings, keys]
      split
      · rfl
      · simp [spellings, List.filter_append, apart]

@[simp]
theorem spellings_keepText (text : String) :
    (f.keepText key text).spellings name = f.spellings name := by
  cases key <;> rfl

/-- To bind a name that was not found gets in the way of no name that was. -/
theorem locate_insert {inCase : Bool} (free : f.locate name anyCase = none)
    (within : inCase = true → anyCase = true) (located : f.locate other inCase = some key)
    (ref : NodeRef) (text : String) :
    ((f.insert (.parse name) ref).keepText (.parse name) text).locate other inCase = some key := by
  have apart : ¬ (Key.parse name).Answers other inCase := by
    intro own
    rcases answers_of_locate located with ⟨answers, bound⟩
    have found := isSome_locate_iff.2 ⟨key, (answers.of_parse own).mono within, bound⟩
    rw [free] at found
    cases found
  rw [← located]
  refine locate_congr ?_ ?_
  · intro key' answers _
    have different : key' ≠ .parse name := by
      rintro rfl
      exact apart answers
    simp [different]
  · intro any word
    rw [spellings_keepText, spellings_insert]
    exact fun same => apart (Or.inr (Or.inr ⟨any, word, same⟩))

end Frame

end TemplateVars
