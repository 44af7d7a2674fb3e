import TemplateVars.Json.Decode
import TemplateVars.Json.Writer
import TemplateVars.Proofs.Json.Literal
import TemplateVars.Proofs.SortedMap
import TemplateVars.Proofs.Text.Numeral

/-!
# Decoding what was encoded

A record written as an object gives its fields again, and a map written as an
object gives its entries again, provided that each field and each entry can be
decoded.
-/

namespace TemplateVars

namespace SortedMap

variable {α β : Type} [Ord α] [Std.TransOrd α] [Std.LawfulEqOrd α] [DecidableEq α]

/-- Binding the entries of a map one after another gives the map. -/
theorem ofList_toList (m : SortedMap α β) : ofList m.toList = m := by
  apply ext_find?
  intro key
  rw [find?_ofList, lookup_reverse_toList]

end SortedMap

namespace Json

theorem text?_ofString (s : String) : (ofString s).text? = some s :=
  Literal.decode?_encode s

theorem word64OfDigits?_toDigits {n : Nat} (small : n ≤ Text.maxWord64) :
    word64OfDigits? (Nat.toDigits 10 n) = some n := by
  rw [word64OfDigits?, if_pos]
  · simp only [Text.valueOf_toDigits, if_pos small]
  · exact ⟨Nat.toDigits_ne_nil, Text.all_isDigit_toDigits n, Text.canonical_toDigits n⟩

theorem word64?_ofNat {n : Nat} (small : n ≤ Text.maxWord64) : (ofNat n).word64? = some n :=
  word64OfDigits?_toDigits small

/-- A numeral is its own literal. -/
theorem encode_toString (n : Nat) : Literal.encode (toString n) = Nat.toDigits 10 n := by
  have plain {c : Char} (digit : c.isDigit = true) : Literal.encodeChar c = [c] := by
    have code : 48 ≤ c.toNat := by
      rw [Char.isDigit, Bool.and_eq_true, decide_eq_true_eq, decide_eq_true_eq] at digit
      exact digit.1
    unfold Literal.encodeChar
    split
    case h_8 => rw [if_neg (by omega)]
    all_goals simp at digit
  have each (cs : List Char) (decimal : cs.all Char.isDigit = true) :
      cs.flatMap Literal.encodeChar = cs := by
    induction cs with
    | nil => rfl
    | cons c cs ih =>
        rw [List.all_cons, Bool.and_eq_true] at decimal
        rw [List.flatMap_cons, plain decimal.1, ih decimal.2, List.singleton_append]
  rw [Literal.encode, Nat.toString_eq_repr, Nat.toList_repr]
  exact each _ (Text.all_isDigit_toDigits n)

/-- A record gives the fields that it was written with. -/
theorem exists_fields (names : List String) (members : List (String × Json))
    (distinct : (members.map (·.1)).Nodup) (known : ∀ m ∈ members, m.1 ∈ names) :
    ∃ fields, (ofMembers members).fields? names = some fields ∧
      ∀ name, fields.find? name = SortedMap.lookup name members := by
  rw [ofMembers, fields?]
  induction members with
  | nil => exact ⟨∅, rfl, fun name => rfl⟩
  | cons m members ih =>
      rw [List.map_cons, List.nodup_cons] at distinct
      rcases ih distinct.2 (fun m' listed => known m' (List.mem_cons_of_mem _ listed)) with
        ⟨fields, read, found⟩
      have absent : fields.contains m.1 = false := by
        rw [SortedMap.contains, found, SortedMap.lookup_eq_none.2 distinct.1]
        rfl
      refine ⟨fields.insert m.1 m.2, ?_, ?_⟩
      · rw [List.map_cons, knownMembers, Literal.decode?_encode, read]
        simp [known m List.mem_cons_self, absent]
      · intro name
        rw [SortedMap.find?_insert, SortedMap.lookup_cons, found]

/-- A map gives the entries that it was written with. -/
theorem entries?_object {α β : Type} [Ord α] [Std.TransOrd α] [Std.LawfulEqOrd α] [DecidableEq α]
    {readKey : List Char → Option α} {readValue : Json → Option β} (spell : α → List Char)
    (encode : β → Json) {m : SortedMap α β}
    (keys : ∀ key value, m.find? key = some value → readKey (spell key) = some key)
    (values : ∀ key value, m.find? key = some value → readValue (encode value) = some value) :
    entries? readKey readValue (.object (m.toList.map fun e => (spell e.1, encode e.2))) =
      some m := by
  have each : ∀ l : List (α × β), (∀ e ∈ l, m.find? e.1 = some e.2) →
      (l.map fun e => (spell e.1, encode e.2)).mapM
        (fun e => do return (← readKey e.1, ← readValue e.2)) = some l := by
    intro l
    induction l with
    | nil => exact fun _ => rfl
    | cons e l ih =>
        intro listed
        have own := listed e List.mem_cons_self
        have later := ih fun e' mem => listed e' (List.mem_cons_of_mem _ mem)
        rw [List.map_cons, List.mapM_cons, later]
        simp [keys e.1 e.2 own, values e.1 e.2 own]
  rw [entries?, each m.toList fun e listed => SortedMap.find?_eq_some.2 listed]
  simp [SortedMap.ofList_toList]

/-! ### What is decoded -/

theorem word64OfDigits?_le {digits : List Char} {n : Nat}
    (read : word64OfDigits? digits = some n) : n ≤ Text.maxWord64 := by
  rw [word64OfDigits?] at read
  split at read
  · simp only at read
    split at read
    · rename_i small
      cases read
      exact small
    · cases read
  · cases read

theorem word64?_le {j : Json} {n : Nat} (read : j.word64? = some n) : n ≤ Text.maxWord64 := by
  cases j with
  | number literal => exact word64OfDigits?_le read
  | _ => cases read

theorem exists_of_required {α : Type} {fields : SortedMap String Json} {name : String}
    {read : Json → Option α} {a : α} (given : required fields name read = some a) :
    ∃ j, read j = some a := by
  rcases Option.bind_eq_some_iff.1 given with ⟨j, -, value⟩
  exact ⟨j, value⟩

theorem eq_or_exists_of_optional {α : Type} {fields : SortedMap String Json} {name : String}
    {default : α} {read : Json → Option α} {a : α}
    (given : optional fields name default read = some a) :
    a = default ∨ ∃ j, read j = some a := by
  rw [optional] at given
  split at given
  · rename_i j _
    exact Or.inr ⟨j, given⟩
  · exact Or.inl (Option.some.inj given).symm

theorem of_nullable? {α : Type} {read : Json → Option α} {j : Json} {a : α}
    (given : nullable? read j = some (some a)) : read j = some a := by
  rw [nullable?.eq_def] at given
  split at given
  · cases given
  · simpa using given

/-- The fields of an object are among its members. -/
theorem exists_mem_of_find?_knownMembers {known : List String} {members : List (List Char × Json)}
    {fields : SortedMap String Json} (read : knownMembers known members = some fields)
    {name : String} {j : Json} (found : fields.find? name = some j) :
    ∃ literal, (literal, j) ∈ members := by
  induction members generalizing fields with
  | nil =>
      cases read
      cases found
  | cons m members ih =>
      rw [knownMembers] at read
      simp only [Option.bind_eq_bind, Option.bind_eq_some_iff] at read
      rcases read with ⟨key, -, rest, later, read⟩
      have further (old : rest.find? name = some j) : ∃ literal, (literal, j) ∈ m :: members := by
        rcases ih later old with ⟨literal, listed⟩
        exact ⟨literal, List.mem_cons_of_mem _ listed⟩
      split at read
      · cases read
        exact further found
      · split at read
        · cases read
        · cases read
          rw [SortedMap.find?_insert] at found
          split at found
          · cases found
            exact ⟨m.1, List.mem_cons_self⟩
          · exact further found

/-- Each value of a map that is read was read, also where a later one counts. -/
theorem exists_of_mem_entries? {α β : Type} [Ord α] [Std.TransOrd α] [Std.LawfulEqOrd α]
    {readKey : List Char → Option α} {readValue : Json → Option β}
    {members : List (List Char × Json)} {m : SortedMap α β}
    (read : entries? readKey readValue (.object members) = some m) {member : List Char × Json}
    (listed : member ∈ members) : ∃ value, readValue member.2 = some value := by
  rcases Option.bind_eq_some_iff.1 read with ⟨entries, all, -⟩
  clear read
  induction members generalizing entries with
  | nil => cases listed
  | cons first members ih =>
      rw [List.mapM_cons] at all
      simp only [Option.bind_eq_bind, Option.pure_def, Option.bind_eq_some_iff,
        Option.some.injEq] at all
      rcases all with ⟨e, ⟨key, -, value, ownValue, -⟩, later, rest, -⟩
      rcases List.mem_cons.1 listed with rfl | listed
      · exact ⟨value, ownValue⟩
      · exact ih listed later rest

/-- Each entry of a map that is read has a key and a value that were read. -/
theorem exists_of_entries? {α β : Type} [Ord α] [Std.TransOrd α] [Std.LawfulEqOrd α]
    [DecidableEq α] {readKey : List Char → Option α} {readValue : Json → Option β} {j : Json}
    {m : SortedMap α β} (read : entries? readKey readValue j = some m) {key : α} {value : β}
    (found : m.find? key = some value) :
    (∃ literal, readKey literal = some key) ∧ ∃ j, readValue j = some value := by
  have each (l : List (List Char × Json)) {entries : List (α × β)}
      (all : (l.mapM fun e => do return (← readKey e.1, ← readValue e.2)) = some entries) :
      ∀ e ∈ entries, (∃ literal, readKey literal = some e.1) ∧ ∃ j, readValue j = some e.2 := by
    induction l generalizing entries with
    | nil =>
        cases all
        nofun
    | cons member l ih =>
        rw [List.mapM_cons] at all
        simp only [Option.bind_eq_bind, Option.pure_def, Option.bind_eq_some_iff,
          Option.some.injEq] at all
        rcases all with ⟨e, ⟨key, ownKey, value, ownValue, rfl⟩, later, rest, rfl⟩
        intro e listed
        rcases List.mem_cons.1 listed with rfl | listed
        · exact ⟨⟨_, ownKey⟩, ⟨_, ownValue⟩⟩
        · exact ih rest e listed
  cases j with
  | object members =>
      rcases Option.bind_eq_some_iff.1 read with ⟨entries, all, same⟩
      cases same
      exact each members all _ (SortedMap.kind.mem_of_find?_ofList found)
  | _ => cases read

end Json

end TemplateVars

