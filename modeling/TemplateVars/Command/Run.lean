import TemplateVars.Command.Basic
import TemplateVars.Command.Report
import TemplateVars.Config

/-!
# Running commands

A command works on a store in a directory, which the configuration names. It
ends with a text to show or with an error; notices are raised on the way.
-/

namespace TemplateVars

/-- Something that deserves attention although the command goes on. -/
inductive Notice where
  /-- The configuration keeps renders from storing what is being planned. -/
  | dataFeatureOff
  | store (warning : Warning)
  deriving DecidableEq

namespace Notice

/-- The part of the tool that raises a notice. -/
def target : Notice → String
  | dataFeatureOff => "wikivars::commands::diff"
  | store _ => "wikivars_core::upsert::apply"

/-- The words of a notice. -/
def words : Notice → String
  | dataFeatureOff => "features.data is off; renders will not write these sets"
  | store (.staleWrite set stored plan) =>
    "stale write: keeping stored revision set_id=" ++ toString set ++ " stored_rev=" ++
      toString stored ++ " plan_rev=" ++ toString plan
  | store (.vanished page set) =>
    "updated set vanished; storing anew page_id=" ++ toString page ++ " set_id=" ++ toString set

/-- The text of a notice. -/
def message (n : Notice) : String := n.target ++ ": " ++ n.words

end Notice

/-- Why a command fails. -/
inductive CommandError where
  /-- The configuration is of no use. -/
  | config (path : Path) (error : ConfigError)
  | store (error : StoreError)
  | notStored (page : PageId)
  /-- The set is not stored. -/
  | noSuchSet (page : PageId) (set : String)
  /-- The file with rendered sets could not be read. -/
  | unreadable (file : Path) (fault : DiskFault)
  /-- The file holds no rendered sets. -/
  | notRendered (file : Path)
  deriving DecidableEq

/-- The words for what lies behind a store error, from the outside in. -/
def StoreError.causes : StoreError → List String
  | .lock (.disk step path fault) => [LockError.message (.disk step path fault), fault.message]
  | .lock error => [error.message]
  | _ => []

/-- The text of a command's error. -/
def CommandError.message : CommandError → String
  | config path error => "Failed to load config " ++ path.text ++ ": " ++ error.message
  | store error => ": ".intercalate (error.message :: error.causes)
  | notStored page => "Nothing stored for page " ++ toString page
  | noSuchSet page set => "Page " ++ toString page ++ " has no set '" ++ set ++ "'"
  | unreadable file fault => "Failed to read " ++ file.text ++ ": " ++ fault.message
  | notRendered file => file.text ++ " is not a set name -> variables object"

/-- A host on which commands run, with the notices raised so far. -/
structure Console where
  host : Host
  notices : List Notice := []

/-- A step of a command; what it did before an error stays done. -/
abbrev CommandAction (α : Type) := ExceptT CommandError (StateM Console) α

/-- What a command needs to know besides what it is asked. -/
structure Surroundings where
  config : Config
  /-- Whether colours are seen. -/
  colored : Bool
  verbose : Bool
  now : Timestamp

namespace Surroundings

/-- The store that commands work on. -/
def store (s : Surroundings) : DirectoryStore := s.config.directoryStore

end Surroundings

namespace Command

/-- Do something with the store. -/
def onStore {α : Type} (act : StoreAction Host α) : CommandAction α :=
  ExceptT.mk fun console =>
    let (result, host) := act.run.run console.host
    (result.mapError .store, { console with host })

/-- Raise notices. -/
def raise (notices : List Notice) : CommandAction Unit :=
  modify fun console => { console with notices := console.notices ++ notices }

/-- The records of all stored pages. -/
def records (store : DirectoryStore) : CommandAction (List PageRecord) := do
  let pages ← onStore store.pages
  let found ← pages.mapM fun page => onStore (store.loadRecord page)
  return found.filterMap id

/-- List the stored pages. -/
def runList (s : Surroundings) (json : Bool) : CommandAction String := do
  let pages ← records s.store
  if json then return textOfJson (PageRecord.listingJson s.store.root s.now pages)
  else return textOfLines (PageRecord.listing s.colored s.verbose s.store.root pages)

/-- Show the stored sets of a page, or one of them. -/
def runDisplay (s : Surroundings) (page : PageId) (set : Option String) (json : Bool) :
    CommandAction String := do
  let some stored ← onStore (s.store.gateway.loadSets page) | throw (.notStored page)
  let chosen ←
    match set.map truncateName with
    | none => pure stored
    | some name =>
      if stored.sets.contains name then pure (stored.only name) else throw (.noSuchSet page name)
  if json then return textOfJson chosen.toJson
  else return textOfLines (chosen.lines s.colored)

/-- Remove all that is stored for a page. -/
def runPurge (s : Surroundings) (page : PageId) : CommandAction String := do
  if ← onStore (s.store.deleteAll page) then
    return textOfLines [Style.green.paint s.colored "✓" ++ " Purged page " ++ toString page]
  else return textOfLines ["Nothing stored for page " ++ toString page]

/-- Rendered sets by name, each with its variables by name. -/
abbrev RenderedSets := SortedMap String (SortedMap String Variable)

/-- The rendered sets that a text holds. -/
def renderedSets? (text : String) : Option RenderedSets :=
  (Json.read? text).bind (Json.entries? Json.Literal.decode? Variable.mapOfJson?)

/-- Read the rendered sets in a file. -/
def readRendered (file : Path) : CommandAction RenderedSets := do
  match (← get).host.disk.readText file with
  | .error fault => throw (.unreadable file fault)
  | .ok text =>
    match renderedSets? text with
    | none => throw (.notRendered file)
    | some sets => return sets

/-- The revision after a stored one, as far as there is one. -/
def revisionAfter (stored : RevId) : RevId := min (stored + 1) Text.maxWord64

/-- The revision of a render: the one given, or the one after the stored one. -/
def renderRevision (given : Option RevId) (stored : Option SetCollection) : RevId :=
  given.getD ((stored.map fun c => revisionAfter c.revId).getD 1)

/-- Rendered sets as a collection of a page. -/
def collect (page : PageId) (rev : RevId) (sets : RenderedSets) : SetCollection :=
  let fresh : SetCollection := { pageId := page, revId := rev }
  fresh.insertSets (sets.toList.map fun e => (e.1, e.2.toList))

/-- Carry out a plan, and tell what was done. -/
def carryOut (s : Surroundings) (p : Plan) : CommandAction ApplyReport := do
  let outcome ← onStore (s.store.save p s.now)
  raise (outcome.warnings.map .store)
  return outcome.report

/-- Plan to store the rendered sets in a file, and store them if asked to. -/
def runDiff (s : Surroundings) (page : PageId) (file : Path) (rev : Option RevId)
    (apply json : Bool) : CommandAction String := do
  let sets ← readRendered file
  if !s.config.features.data then raise [.dataFeatureOff]
  let stored ← onStore (s.store.gateway.loadSets page)
  let plan := Plan.between stored (some (collect page (renderRevision rev stored) sets))
  let report ← if apply && !plan.isEmpty then some <$> carryOut s plan else pure none
  if json then return textOfJson (plan.answerJson report)
  else return textOfLines (plan.lines s.colored report)

/-- Run a command, which gives the text to show. -/
def run (s : Surroundings) : Command → CommandAction String
  | .list json => runList s json
  | .display page set json => runDisplay s page set json
  | .purge page => runPurge s page
  | .diff page file rev apply json => runDiff s page file rev apply json

end Command

end TemplateVars
