import TemplateVars.Proofs.Json.Decode
import TemplateVars.Proofs.Json.Reader
import TemplateVars.Saved.Json

/-!
# Saved data are decoded as they were encoded

Variables, sets and collections are read back from their text, whichever way it
is laid out, provided that their numbers fit 64 bits.
-/

namespace TemplateVars

namespace Json

/-- However the text of a value is laid out, reading it gives the value again. -/
def Restores {α : Type} (encode : α → Json) (decode : Json → Option α) (a : α) : Prop :=
  ∀ layout, (read? ((encode a).write layout)).bind decode = some a

theorem restores_of_decoded {α : Type} {encode : α → Json} {decode : Json → Option α} {a : α}
    (written : (encode a).Written) (decoded : decode (encode a) = some a) :
    Restores encode decode a := by
  intro layout
  rw [written.read?_write, Option.bind_some, decoded]

theorem written_ofMembers {members : List (String × Json)} (each : ∀ m ∈ members, Written m.2) :
    Written (ofMembers members) := by
  apply Written.object
  · simp only [List.mem_map]
    rintro m ⟨e, listed, rfl⟩
    exact ⟨e.1, rfl⟩
  · simp only [List.mem_map]
    rintro m ⟨e, listed, rfl⟩
    exact each e listed

theorem written_jsonOfMap {β : Type} {encode : β → Json} (each : ∀ value, Written (encode value))
    (m : SortedMap String β) : Written (jsonOfMap encode m) := by
  apply written_ofMembers
  simp only [List.mem_map]
  rintro member ⟨e, listed, rfl⟩
  exact each e.2

theorem entries?_jsonOfMap {β : Type} {encode : β → Json} {decode : Json → Option β}
    {m : SortedMap String β} (values : ∀ key value, m.find? key = some value →
      decode (encode value) = some value) :
    entries? Literal.decode? decode (jsonOfMap encode m) = some m := by
  rw [jsonOfMap, ofMembers, List.map_map]
  exact entries?_object Literal.encode encode (fun key _ _ => Literal.decode?_encode key) values

end Json

namespace Variable

theorem written_toJson (v : Variable) : v.toJson.Written := by
  apply Json.written_ofMembers
  simp only [List.mem_cons, List.not_mem_nil, or_false]
  rintro m (rfl | rfl)
  · exact .string v.value
  · exact .bool v.parseOnLoad

theorem ofJson?_toJson (v : Variable) : ofJson? v.toJson = some v := by
  rcases Json.exists_fields ["value", "parse_on_load"]
    [("value", .ofString v.value), ("parse_on_load", .bool v.parseOnLoad)] (by simp) (by simp)
    with ⟨fields, read, found⟩
  simp [ofJson?, toJson, read, Json.required, Json.optional, found, SortedMap.lookup_cons,
    Json.text?_ofString, Json.bool?]

theorem mapOfJson?_jsonOfMap (m : SortedMap String Variable) :
    mapOfJson? (jsonOfMap toJson m) = some m :=
  Json.entries?_jsonOfMap fun _ v _ => ofJson?_toJson v

end Variable

namespace VariableSet

/-- A set whose identifier, if it has one, fits 64 bits. -/
def NumbersFit (s : VariableSet) : Prop := ∀ id ∈ s.setId, id ≤ Text.maxWord64

instance (s : VariableSet) : Decidable s.NumbersFit :=
  inferInstanceAs (Decidable (∀ id ∈ s.setId, id ≤ Text.maxWord64))

theorem written_toJson (s : VariableSet) : s.toJson.Written := by
  apply Json.written_ofMembers
  simp only [List.mem_append, List.mem_cons, List.not_mem_nil, or_false, Option.mem_toList,
    Option.map_eq_some_iff]
  rintro m ((rfl | rfl) | ⟨id, -, rfl⟩)
  · exact .string s.name
  · exact Json.written_jsonOfMap Variable.written_toJson s.vars
  · exact .number id

theorem ofJson?_toJson {s : VariableSet} (fits : s.NumbersFit) : ofJson? s.toJson = some s := by
  rcases s with ⟨name, vars, setId⟩
  -- an identifier that is missing is not written, so there is one field less to be read
  cases setId with
  | none =>
      rcases Json.exists_fields ["name", "variables", "set_id"]
        [("name", .ofString name), ("variables", jsonOfMap Variable.toJson vars)]
        (by simp) (by simp) with ⟨fields, read, found⟩
      simp [ofJson?, toJson, read, Json.required, Json.optional, found, SortedMap.lookup,
        Json.text?_ofString, Variable.mapOfJson?_jsonOfMap]
  | some id =>
      rcases Json.exists_fields ["name", "variables", "set_id"]
        [("name", .ofString name), ("variables", jsonOfMap Variable.toJson vars),
          ("set_id", .ofNat id)] (by simp) (by simp) with ⟨fields, read, found⟩
      have given : Json.nullable? Json.word64? (.ofNat id) = some (some id) :=
        congrArg (Option.map some) (Json.word64?_ofNat (fits id rfl))
      simp [ofJson?, toJson, read, Json.required, Json.optional, found, SortedMap.lookup_cons,
        Json.text?_ofString, Variable.mapOfJson?_jsonOfMap, given]

end VariableSet

namespace SetCollection

/-- A collection all of whose numbers fit 64 bits. -/
structure NumbersFit (c : SetCollection) : Prop where
  pageId_le : c.pageId ≤ Text.maxWord64
  revId_le : c.revId ≤ Text.maxWord64
  sets : ∀ name s, c.sets.find? name = some s → s.NumbersFit
  setIds_le : ∀ name id, c.setIds.find? name = some id → id ≤ Text.maxWord64

theorem written_toJson (c : SetCollection) : c.toJson.Written := by
  apply Json.written_ofMembers
  simp only [List.mem_cons, List.not_mem_nil, or_false]
  rintro m (rfl | rfl | rfl | rfl)
  · exact .number c.pageId
  · exact .number c.revId
  · exact Json.written_jsonOfMap VariableSet.written_toJson c.sets
  · exact Json.written_jsonOfMap .number c.setIds

theorem ofJson?_toJson {c : SetCollection} (fits : c.NumbersFit) : ofJson? c.toJson = some c := by
  have sets : Json.entries? Json.Literal.decode? VariableSet.ofJson?
      (jsonOfMap VariableSet.toJson c.sets) = some c.sets :=
    Json.entries?_jsonOfMap fun name s found => VariableSet.ofJson?_toJson (fits.sets name s found)
  have setIds : Json.entries? Json.Literal.decode? Json.word64? (jsonOfMap Json.ofNat c.setIds) =
      some c.setIds :=
    Json.entries?_jsonOfMap fun name id found => Json.word64?_ofNat (fits.setIds_le name id found)
  rcases Json.exists_fields ["page_id", "rev_id", "sets", "set_ids"]
    [("page_id", .ofNat c.pageId), ("rev_id", .ofNat c.revId),
      ("sets", jsonOfMap VariableSet.toJson c.sets), ("set_ids", jsonOfMap Json.ofNat c.setIds)]
    (by simp) (by simp) with ⟨fields, read, found⟩
  simp [ofJson?, toJson, read, Json.required, Json.optional, found, SortedMap.lookup_cons,
    Json.word64?_ofNat fits.pageId_le, Json.word64?_ofNat fits.revId_le, sets, setIds]

end SetCollection

end TemplateVars
