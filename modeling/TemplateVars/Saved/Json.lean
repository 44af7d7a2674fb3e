import TemplateVars.Json.Decode
import TemplateVars.Json.Reader
import TemplateVars.Json.Writer
import TemplateVars.Saved.Collection

/-!
# Saved sets in JSON

The stored form of variables, sets and collections. A variable's flag, a set's
variables and the maps of a collection may be left out; a set without an
identifier is written without one.
-/

namespace TemplateVars

/-- The JSON form of a map whose keys are texts. -/
def jsonOfMap {β : Type} (encode : β → Json) (m : SortedMap String β) : Json :=
  .ofMembers (m.toList.map fun e => (e.1, encode e.2))

namespace Variable

/-- The stored form of a variable. -/
def toJson (v : Variable) : Json :=
  .ofMembers [("value", .ofString v.value), ("parse_on_load", .bool v.parseOnLoad)]

/-- Read the stored form of a variable. -/
def ofJson? (j : Json) : Option Variable := do
  let fields ← j.fields? ["value", "parse_on_load"]
  let value ← Json.required fields "value" Json.text?
  let parseOnLoad ← Json.optional fields "parse_on_load" false Json.bool?
  return ofFlag value parseOnLoad

/-- Read variables by name. -/
def mapOfJson? : Json → Option (SortedMap String Variable) :=
  Json.entries? Json.Literal.decode? ofJson?

end Variable

namespace VariableSet

/-- The stored form of a set. -/
def toJson (s : VariableSet) : Json :=
  .ofMembers <|
    [("name", .ofString s.name), ("variables", jsonOfMap Variable.toJson s.vars)] ++
      (s.setId.map fun id => ("set_id", Json.ofNat id)).toList

/-- Read the stored form of a set. -/
def ofJson? (j : Json) : Option VariableSet := do
  let fields ← j.fields? ["name", "variables", "set_id"]
  let name ← Json.required fields "name" Json.text?
  let vars ← Json.optional fields "variables" ∅ Variable.mapOfJson?
  let setId ← Json.optional fields "set_id" none (Json.nullable? Json.word64?)
  return { name, vars, setId }

end VariableSet

namespace SetCollection

/-- The stored form of a collection. -/
def toJson (c : SetCollection) : Json :=
  .ofMembers [
    ("page_id", .ofNat c.pageId),
    ("rev_id", .ofNat c.revId),
    ("sets", jsonOfMap VariableSet.toJson c.sets),
    ("set_ids", jsonOfMap Json.ofNat c.setIds)]

/-- Read the stored form of a collection. -/
def ofJson? (j : Json) : Option SetCollection := do
  let fields ← j.fields? ["page_id", "rev_id", "sets", "set_ids"]
  let pageId ← Json.required fields "page_id" Json.word64?
  let revId ← Json.required fields "rev_id" Json.word64?
  let sets ← Json.optional fields "sets" ∅ (Json.entries? Json.Literal.decode? VariableSet.ofJson?)
  let setIds ← Json.optional fields "set_ids" ∅ (Json.entries? Json.Literal.decode? Json.word64?)
  return { pageId, revId, sets, setIds }

end SetCollection

end TemplateVars
