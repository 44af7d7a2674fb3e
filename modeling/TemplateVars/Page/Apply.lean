import TemplateVars.Page.Plan
import TemplateVars.Page.Record
import TemplateVars.Page.RowDiff

/-!
# Applying a plan

A plan is written into a page record: deletes first, then inserts, then
updates. The record may have moved on since the plan was made. A set to insert
whose name is stored by now is updated, a set to update that is gone is stored
anew. Stored revisions only move forward: rows of an older plan are written, but
the set keeps its revision and is reported as stale.
-/

namespace TemplateVars

/-- What applying a plan did. -/
structure ApplyReport where
  deletedSets : Nat := 0
  /-- Sets stored under a new identifier. -/
  insertedSets : Nat := 0
  updatedSets : Nat := 0
  rowsInserted : Nat := 0
  rowsUpdated : Nat := 0
  rowsDeleted : Nat := 0
  /-- Sets whose stored revision was kept, being at or past that of the plan. -/
  staleSets : SortedMap SetId Unit := ∅
  deriving DecidableEq

/-- What deserves attention while a plan is applied. -/
inductive Warning where
  /-- A set keeps its stored revision. -/
  | staleWrite (set : SetId) (stored plan : RevId)
  /-- A set to update was gone and is stored anew. -/
  | vanished (page : PageId) (set : SetId)
  deriving DecidableEq

/-- A record while a plan is applied to it. -/
structure Applied where
  record : PageRecord
  report : ApplyReport := {}
  warnings : List Warning := []

namespace Applied

/-- Delete a stored set. -/
def delete (a : Applied) (id : SetId) : Applied :=
  match a.record.sets.find? id with
  | none => a
  | some s =>
    { a with
      record := { a.record with sets := a.record.sets.erase id }
      report := { a.report with
        deletedSets := a.report.deletedSets + 1
        rowsDeleted := a.report.rowsDeleted + s.vars.size } }

/-- Store a set under a new identifier. -/
def store (a : Applied) (revId : RevId) (s : VariableSet) : Applied :=
  { a with
    record := a.record.storeNew { name := s.name, revId, vars := s.vars }
    report := { a.report with
      insertedSets := a.report.insertedSets + 1
      rowsInserted := a.report.rowsInserted + s.vars.size } }

/-- Whether a set keeps its stored revision although the plan has something to say on it. -/
def isStale (stored plan : RevId) (d : RowDiff) : Bool :=
  plan < stored || (plan == stored && !d.isEmpty)

/-- Write the rows between two forms of a set into the stored set with an identifier. -/
def update (a : Applied) (revId : RevId) (id : SetId) (old new : VariableSet) : Applied :=
  match a.record.sets.find? id with
  | none => a
  | some s =>
    let d := RowDiff.between old new
    let stale := isStale s.revId revId d
    let written : StoredSet :=
      { s with vars := d.applyTo s.vars, revId := max s.revId revId }
    { record := { a.record with sets := a.record.sets.insert id written }
      report := { a.report with
        updatedSets := a.report.updatedSets + 1
        rowsInserted := a.report.rowsInserted + d.inserts.size
        rowsUpdated := a.report.rowsUpdated + d.updates.size
        rowsDeleted := a.report.rowsDeleted + d.deletes.size
        staleSets := if stale then a.report.staleSets.insert id () else a.report.staleSets }
      warnings := if stale then a.warnings ++ [.staleWrite id s.revId revId] else a.warnings }

/-- Insert a set, or update the stored set of that name. -/
def insert (a : Applied) (revId : RevId) (s : VariableSet) : Applied :=
  match a.record.findByName? s.name with
  | some (id, stored) => a.update revId id (PageRecord.asVariableSet id stored) s
  | none => a.store revId s

/-- Update a stored set, or store it anew if it is gone. -/
def updateOrStore (a : Applied) (page : PageId) (revId : RevId) (id : SetId)
    (old new : VariableSet) : Applied :=
  if a.record.sets.contains id then a.update revId id old new
  else
    let warned : Applied := { a with warnings := a.warnings ++ [.vanished page id] }
    warned.store revId new

end Applied

namespace Plan

/-- Write a plan into a record; a plan with something to store sets the time of writing. -/
def apply (p : Plan) (now : Timestamp) (record : PageRecord) : Applied :=
  let deleted := p.deletes.keys.foldl (·.delete ·) { record }
  let inserted := p.inserts.foldl (·.insert p.newRevId ·) deleted
  let updated := p.updates.toList.foldl
    (fun a e => a.updateOrStore p.pageId p.newRevId e.1 e.2.1 e.2.2) inserted
  if p.isEmpty then updated
  else { updated with record := { updated.record with updatedAt := some now } }

end Plan

end TemplateVars
