import TemplateVars.Proofs.Scope.Frame
import TemplateVars.Proofs.Text.LowerCase

/-!
# Spellings of a name

Where case does not count, a name that is not bound itself stands for the last
of its spellings. An argument that gets another spelling comes in last again, so
it stays the one that all spellings of its name stand for.
-/

namespace TemplateVars

theorem Key.parse_of_word {name : String} (word : Text.isDigits name = false) :
    parse name = .named name := by
  refine parse_eq_named.2 ⟨rfl, ?_⟩
  simp [position?, Text.isCanonical, word]

/-- The key of an argument once the one spelled `existing` is spelled `name`. -/
def Key.respell (existing name : String) (key : Key) : Key :=
  if key = .named existing then .named name else key

namespace Frame

variable {f f' : Frame} {name existing : String} {key : Key}

/-- A name that is not bound itself, and the last of its spellings. -/
structure LastSpelling (f : Frame) (name existing : String) : Prop where
  word : Text.isDigits name = false
  unbound : (f.ref? (.named name)).isSome = false
  last : (f.spellings name).getLast? = some existing

/-- Where case does not count, the spellings come after the name's own keys. -/
theorem locate_eq_or (f : Frame) (name : String) :
    f.locate name true = (f.locate name false).or
      (if Text.isDigits name then none else (f.spellings name).getLast?.map .named) := by
  simp only [locate]
  split
  · rfl
  · split
    · rfl
    · cases Text.isDigits name <;> simp

theorem locate_exact_eq_some (located : f.locate name false = some key) :
    key = Key.parse name ∨ key = .named name := by
  simp only [locate, Bool.false_and, Bool.false_eq_true, if_false] at located
  split at located
  · exact Or.inl (Option.some.inj located).symm
  · split at located
    · exact Or.inr (Option.some.inj located).symm
    · cases located

theorem locate_cases (located : f.locate name true = some key) :
    f.locate name false = some key ∨
      ∃ existing, key = .named existing ∧ f.LastSpelling name existing := by
  rw [locate_eq_or] at located
  cases own : f.locate name false with
  | some key' =>
      rw [own] at located
      exact Or.inl located
  | none =>
      rw [own, Option.none_or] at located
      cases digits : Text.isDigits name with
      | true => simp [digits] at located
      | false =>
          simp only [digits, Bool.false_eq_true, if_false] at located
          rcases Option.map_eq_some_iff.1 located with ⟨existing, last, rfl⟩
          have unbound : (f.ref? (.named name)).isSome = false := by
            rw [← Bool.not_eq_true]
            intro bound
            simp [locate, Key.parse_of_word digits, bound] at own
          exact Or.inr ⟨existing, rfl, digits, unbound, last⟩

namespace LastSpelling

theorem mem_spellings (spelled : f.LastSpelling name existing) : existing ∈ f.spellings name :=
  List.mem_of_getLast? spelled.last

theorem bound (spelled : f.LastSpelling name existing) : (f.ref? (.named existing)).isSome :=
  OrderedMap.mem_keys.1 (List.mem_filter.1 spelled.mem_spellings).1

theorem lower_eq (spelled : f.LastSpelling name existing) :
    Text.lower existing = Text.lower name := by
  simpa using (List.mem_filter.1 spelled.mem_spellings).2

theorem apart (spelled : f.LastSpelling name existing) : existing ≠ name := by
  rintro rfl
  have bound := spelled.bound
  rw [spelled.unbound] at bound
  cases bound

theorem word_existing (spelled : f.LastSpelling name existing) :
    Text.isDigits existing = false := by
  rw [Text.isDigits_of_lower_eq spelled.lower_eq, spelled.word]

end LastSpelling

/-- A frame and the one in which the argument spelled `existing` is spelled `name`. -/
structure Respells (f : Frame) (existing name : String) (f' : Frame) : Prop where
  isSome_ref? : ∀ key, (f'.ref? key).isSome =
    if key = .named name then true else if key = .named existing then false
    else (f.ref? key).isSome
  keys_eq : f'.named.keys = f.named.keys.filter (· ≠ existing) ++ [name]

/-- To drop the argument and bind it again under the new spelling respells it. -/
theorem LastSpelling.respells (spelled : f.LastSpelling name existing) (ref : NodeRef)
    (text : String) :
    f.Respells existing name
      (((f.erase (.named existing)).insert (.named name) ref).keepText (.named name) text) where
  isSome_ref? := by
    intro key
    by_cases new : key = .named name
    · simp [new]
    · by_cases old : key = .named existing <;> simp [new, old, spelled.apart]
  keys_eq := by
    have free : name ∉ (f.named.erase existing).keys := by
      have unbound := spelled.unbound
      rw [ref?] at unbound
      simp [OrderedMap.mem_keys, unbound]
    change ((f.named.erase existing).insert name ref).keys = _
    rw [OrderedMap.keys_insert, if_neg free, OrderedMap.keys_erase]

theorem spellings_of_lower_eq {other : String} (same : Text.lower other = Text.lower name) :
    f.spellings other = f.spellings name := by
  rw [spellings, spellings, same]

namespace Respells

variable {other : String}

/-- The argument is the last of its spellings after it is respelled. -/
theorem getLast?_spellings (respells : f.Respells existing name f')
    (same : Text.lower other = Text.lower name) : (f'.spellings other).getLast? = some name := by
  simp [spellings, respells.keys_eq, same]

/-- The spellings of other names stay as they are. -/
theorem spellings_eq (respells : f.Respells existing name f')
    (spelled : f.LastSpelling name existing) (different : Text.lower other ≠ Text.lower name) :
    f'.spellings other = f.spellings other := by
  have outside (k : String) (own : (Text.lower k == Text.lower other) = true) : k ≠ existing := by
    rintro rfl
    exact different ((beq_iff_eq.1 own).symm.trans spelled.lower_eq)
  simp only [spellings, respells.keys_eq, List.filter_append, List.filter_filter]
  have new : (Text.lower name == Text.lower other) = false := by
    simpa using different.symm
  simp only [List.filter_cons, new, List.filter_nil, if_false, List.append_nil, Bool.false_eq_true]
  refine List.filter_congr fun k _ => ?_
  cases own : Text.lower k == Text.lower other with
  | false => simp
  | true => simp [outside k own]

/-- A name that is neither spelling is located where it was, if at its own key. -/
theorem locate_exact (respells : f.Respells existing name f') (new : other ≠ name)
    (old : other ≠ existing) : f'.locate other false = f.locate other false := by
  have routed : Key.parse other ≠ .named name ∧ Key.parse other ≠ .named existing := by
    constructor
    · exact fun same => new (Key.parse_eq_named.1 same).1
    · exact fun same => old (Key.parse_eq_named.1 same).1
  simp [locate, respells.isSome_ref?, routed, new, old]

/-- Where case does not count, every name is located where it was, under the new spelling. -/
theorem locate_anyCase (respells : f.Respells existing name f')
    (spelled : f.LastSpelling name existing) (other : String) :
    f'.locate other true = (f.locate other true).map (Key.respell existing name) := by
  have parse := Key.parse_of_word spelled.word
  have parse' := Key.parse_of_word spelled.word_existing
  by_cases new : other = name
  · subst new
    simp [locate, parse, respells.isSome_ref?, spelled.unbound, spelled.word, spelled.last,
      Key.respell]
  · by_cases old : other = existing
    · subst old
      simp [locate, parse', respells.isSome_ref?, spelled.apart, spelled.bound,
        spelled.word_existing, respells.getLast?_spellings spelled.lower_eq, Key.respell]
    · rw [locate_eq_or, locate_eq_or, respells.locate_exact new old]
      cases located : f.locate other false with
      | some key =>
          have kept : key ≠ .named existing := by
            rintro rfl
            rcases locate_exact_eq_some located with routed | named
            · exact old (Key.parse_eq_named.1 routed.symm).1
            · exact old (Key.named.inj named).symm
          simp [Key.respell, kept]
      | none =>
          by_cases same : Text.lower other = Text.lower name
          · have last : (f.spellings other).getLast? = some existing := by
              rw [spellings_of_lower_eq same, spelled.last]
            split <;> simp [respells.getLast?_spellings same, last, Key.respell]
          · rw [respells.spellings_eq spelled same]
            split
            · rfl
            · cases last : (f.spellings other).getLast? with
              | none => rfl
              | some k =>
                  have own := (List.mem_filter.1 (List.mem_of_getLast? last)).2
                  have kept : k ≠ existing := by
                    rintro rfl
                    exact same ((beq_iff_eq.1 own).symm.trans spelled.lower_eq)
                  simp [Key.respell, kept]

end Respells

end Frame

end TemplateVars
