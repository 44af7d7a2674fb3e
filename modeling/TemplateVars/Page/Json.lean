import TemplateVars.Page.Apply
import TemplateVars.Saved.Json

/-!
# Page records, plans and reports in JSON

A page record is what a page file holds. Plans and reports are only ever
written, for people and programs that want to see what would be stored.
-/

namespace TemplateVars

namespace StoredSet

/-- The stored form of a stored set. -/
def toJson (s : StoredSet) : Json :=
  .ofMembers [
    ("name", .ofString s.name),
    ("rev_id", .ofNat s.revId),
    ("variables", jsonOfMap Variable.toJson s.vars)]

/-- Read a stored set. -/
def ofJson? (j : Json) : Option StoredSet := do
  let fields ← j.fields? ["name", "rev_id", "variables"]
  let name ← Json.required fields "name" Json.text?
  let revId ← Json.required fields "rev_id" Json.word64?
  let vars ← Json.optional fields "variables" ∅ Variable.mapOfJson?
  return { name, revId, vars }

end StoredSet

/-- The JSON form of a timestamp. -/
def Timestamp.toJson (t : Timestamp) : Json := .ofString t.stored

/-- Read a timestamp. -/
def Timestamp.ofJson? (j : Json) : Option Timestamp := j.text?.bind Timestamp.read?

namespace PageRecord

/-- The stored form of a page record. -/
def toJson (r : PageRecord) : Json :=
  .ofMembers [
    ("page_id", .ofNat r.pageId),
    ("sets", .ofMembers (r.sets.toList.map fun e => (toString e.1, e.2.toJson))),
    ("next_set_id", .ofNat r.nextSetId),
    ("updated_at", .ofOption Timestamp.toJson r.updatedAt)]

/-- Read the stored form of a page record. -/
def ofJson? (j : Json) : Option PageRecord := do
  let fields ← j.fields? ["page_id", "sets", "next_set_id", "updated_at"]
  let pageId ← Json.required fields "page_id" Json.word64?
  let sets ← Json.optional fields "sets" ∅ (Json.entries? Json.word64OfDigits? StoredSet.ofJson?)
  let nextSetId ← Json.optional fields "next_set_id" 1 Json.word64?
  let updatedAt ← Json.optional fields "updated_at" none (Json.nullable? Timestamp.ofJson?)
  return { pageId, sets, nextSetId, updatedAt }

/-- The text of a page file. -/
def write (r : PageRecord) : String := r.toJson.write .indented

/-- The record that a page file holds. -/
def read? (s : String) : Option PageRecord := (Json.read? s).bind ofJson?

end PageRecord

/-- The JSON form of identifiers. -/
def jsonOfIds (ids : SortedMap SetId Unit) : Json := .array (ids.keys.map Json.ofNat)

/-- The JSON form of a plan. -/
def Plan.toJson (p : Plan) : Json :=
  .ofMembers [
    ("page_id", .ofNat p.pageId),
    ("old_rev_id", .ofNat p.oldRevId),
    ("new_rev_id", .ofNat p.newRevId),
    ("deletes", jsonOfIds p.deletes),
    ("inserts", .array (p.inserts.map VariableSet.toJson)),
    ("updates", .ofMembers (p.updates.toList.map fun e =>
      (toString e.1, .array [e.2.1.toJson, e.2.2.toJson])))]

/-- The JSON form of row writes. -/
def RowDiff.toJson (d : RowDiff) : Json :=
  .ofMembers [
    ("inserts", jsonOfMap Variable.toJson d.inserts),
    ("updates", jsonOfMap Variable.toJson d.updates),
    ("deletes", .array (d.deletes.keys.map Json.ofString))]

/-- The JSON form of a report. -/
def ApplyReport.toJson (r : ApplyReport) : Json :=
  .ofMembers [
    ("deleted_sets", .ofNat r.deletedSets),
    ("inserted_sets", .ofNat r.insertedSets),
    ("updated_sets", .ofNat r.updatedSets),
    ("rows_inserted", .ofNat r.rowsInserted),
    ("rows_updated", .ofNat r.rowsUpdated),
    ("rows_deleted", .ofNat r.rowsDeleted),
    ("stale_sets", jsonOfIds r.staleSets)]

end TemplateVars
