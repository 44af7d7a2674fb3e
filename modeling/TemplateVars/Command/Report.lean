import TemplateVars.Command.Style
import TemplateVars.Disk.Path
import TemplateVars.Page.Json

/-!
# What commands show

Each command answers in lines for people or in JSON for programs. Where a
program may be a reader, members stand in the order of their keys; a page that
is shown keeps the form that collections have in storage.
-/

namespace TemplateVars

/-- The text of lines. -/
def textOfLines (lines : List String) : String := String.join (lines.map (· ++ "\n"))

/-- The text of a JSON answer. -/
def textOfJson (j : Json) : String := textOfLines [j.write .indented]

/-- What people call a set; the default set has an empty name. -/
def setLabel (name : String) : String := if name = "" then "(default)" else name

/-! ### Stored pages -/

namespace PageRecord

/-- The line for a page among others. -/
def line (colored : Bool) (r : PageRecord) : String :=
  Style.cyan.paint colored "•" ++ " " ++
    Style.bold.paint colored ("page " ++ toString r.pageId) ++ "  " ++
    toString r.sets.size ++ " sets, " ++ toString r.variableCount ++ " variables"

/-- The lines for a page among others; the time of writing is told on request. -/
def lines (colored verbose : Bool) (r : PageRecord) : List String :=
  match verbose, r.updatedAt with
  | true, some t => [r.line colored, "    updated " ++ t.shown]
  | _, _ => [r.line colored]

/-- The JSON form of a page among others. -/
def summary (r : PageRecord) : Json :=
  .ofMembers [
    ("page_id", .ofNat r.pageId),
    ("sets", .ofNat r.sets.size),
    ("updated_at", .ofOption (fun t => .ofString (Timestamp.shown t)) r.updatedAt),
    ("variables", .ofNat r.variableCount)]

/-- The lines for the pages in a directory. -/
def listing (colored verbose : Bool) (root : Path) (pages : List PageRecord) : List String :=
  if pages.isEmpty then ["No pages stored in " ++ root.text]
  else pages.flatMap (·.lines colored verbose)

/-- The JSON form of the pages in a directory at a time. -/
def listingJson (root : Path) (now : Timestamp) (pages : List PageRecord) : Json :=
  .ofMembers [
    ("pages", .array (pages.map summary)),
    ("store", .ofString root.text),
    ("timestamp", .ofString now.shown)]

end PageRecord

/-! ### The sets of a page -/

namespace Variable

/-- What is shown of a variable. -/
def shown (colored : Bool) : Variable → String
  | text value => value
  | needsParse value => value ++ " " ++ Style.yellow.paint colored "(markup)"

end Variable

namespace SetCollection

/-- The lines for a set, after an empty one. -/
def setLines (colored : Bool) (c : SetCollection) (name : String) (s : VariableSet) :
    List String :=
  let id := ((c.setIds.find? name).map fun id => " #" ++ toString id).getD ""
  ["", Style.bold.paint colored (setLabel name) ++ Style.dimmed.paint colored id] ++
    s.vars.toList.map fun e => "  " ++ e.1 ++ " = " ++ e.2.shown colored

/-- The lines for the sets of a page. -/
def lines (colored : Bool) (c : SetCollection) : List String :=
  (Style.cyan.paint colored "→" ++ " page " ++ toString c.pageId ++ " (revision " ++
      toString c.revId ++ ")") ::
    c.sets.toList.flatMap fun e => c.setLines colored e.1 e.2

end SetCollection

/-! ### Plans -/

namespace Plan

/-- The line for a set to update; it is faint if no row changes. -/
def updateLine (colored : Bool) (id : SetId) (old new : VariableSet) : String :=
  let d := RowDiff.between old new
  let line := "  " ++ Style.yellow.paint colored "~" ++ " " ++ setLabel new.name ++ " #" ++
    toString id ++ ": " ++ toString d.inserts.size ++ " inserted, " ++
    toString d.updates.size ++ " updated, " ++ toString d.deletes.size ++ " deleted"
  if d.isEmpty then Style.dimmed.paint colored line else line

/-- The lines for the operations of a plan. -/
def operationLines (colored : Bool) (p : Plan) : List String :=
  p.deletes.keys.map (fun id => "  " ++ Style.red.paint colored "-" ++ " set #" ++ toString id) ++
    p.inserts.map (fun s =>
      "  " ++ Style.green.paint colored "+" ++ " " ++ setLabel s.name ++ " (" ++
        toString s.vars.size ++ " variables)") ++
    p.updates.toList.map fun e => updateLine colored e.1 e.2.1 e.2.2

/-- The lines for what was done, or for what to do next. -/
def reportLines (colored : Bool) : Option ApplyReport → List String
  | none => ["Run with --apply to write these changes"]
  | some r =>
    let applied := Style.green.paint colored "✓" ++ " Applied: " ++ toString r.rowsInserted ++
      " rows inserted, " ++ toString r.rowsUpdated ++ " updated, " ++
      toString r.rowsDeleted ++ " deleted"
    if r.staleSets.isEmpty then [applied]
    else
      [applied, Style.yellow.paint colored "!" ++ " " ++ toString r.staleSets.size ++
        " set(s) already stored at a newer revision"]

/-- The lines for a plan and what was done about it. -/
def lines (colored : Bool) (p : Plan) (report : Option ApplyReport) : List String :=
  if p.isEmpty then [Style.green.paint colored "✓" ++ " Stored sets are up to date"]
  else
    [Style.cyan.paint colored "→" ++ " page " ++ toString p.pageId ++ ": revision " ++
        toString p.oldRevId ++ " → " ++ toString p.newRevId] ++
      p.operationLines colored ++ reportLines colored report

/-- The JSON form of a plan and what was done about it. -/
def answerJson (p : Plan) (report : Option ApplyReport) : Json :=
  Json.sortMembers <| .ofMembers [
    ("plan", p.toJson),
    ("applied", .bool report.isSome),
    ("report", .ofOption ApplyReport.toJson report)]

end Plan

end TemplateVars
