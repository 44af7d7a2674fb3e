import TemplateVars.Main
import TemplateVars.Proofs.Render.FailedFlush
import TemplateVars.Proofs.Render.Flush
import TemplateVars.Proofs.Store.Identifiers
import TemplateVars.Proofs.Store.Writers
import TemplateVars.Store.Memory
import TemplateVars.Proofs.Page.Placement
import TemplateVars.Proofs.Page.Merge
import TemplateVars.Proofs.Page.Report
import TemplateVars.Proofs.Page.Revision
import TemplateVars.Proofs.Page.Independent
import TemplateVars.Proofs.Page.Overlap
import TemplateVars.Proofs.Render.Overlap
import TemplateVars.Proofs.OrderedMap
import TemplateVars.Proofs.Scope.Key
import TemplateVars.Proofs.Scope.Frame
import TemplateVars.Proofs.Scope.Gap
import TemplateVars.Proofs.Scope.Tree
import TemplateVars.Proofs.Scope.Confined
import TemplateVars.Proofs.Scope.Update
import TemplateVars.Proofs.Render.Calls
import TemplateVars.Proofs.Render.Reachable
import TemplateVars.Proofs.Render.Isolation
import TemplateVars.Proofs.Json.Literal
import TemplateVars.Proofs.Json.Reader
import TemplateVars.Proofs.Json.Decode
import TemplateVars.Proofs.Page.Json
import TemplateVars.Proofs.Disk.Paths
import TemplateVars.Proofs.Store.Layout
import TemplateVars.Proofs.Page.Dated
import TemplateVars.Proofs.Store.Undisturbed
import TemplateVars.Proofs.Store.Gateways
import TemplateVars.Proofs.Page.Filtered
import TemplateVars.Proofs.Render.Saves
import TemplateVars.Proofs.Render.Loading
import TemplateVars.Proofs.Store.Rereading
import TemplateVars.Proofs.Render.RoundTrip
import TemplateVars.Proofs.Store.Failures
import TemplateVars.Proofs.Page.Freshness
import TemplateVars.Proofs.Scope.Lookup
import TemplateVars.Proofs.Scope.Positions
import TemplateVars.Proofs.Text.LowerCase
import TemplateVars.Proofs.Scope.Spelling
import TemplateVars.Proofs.Render.Renumbering
import TemplateVars.Proofs.Render.Removals
import TemplateVars.Proofs.Render.Respelling
import TemplateVars.Proofs.Store.Bystander
import TemplateVars.Proofs.Command.Settled
import TemplateVars.Proofs.Scope.Answers
import TemplateVars.Proofs.Render.Assignment
import TemplateVars.Proofs.Render.Inheritance
import TemplateVars.Proofs.Render.Supplement
import TemplateVars.Proofs.Scope.Alike
import TemplateVars.Proofs.Scope.InStep
import TemplateVars.Proofs.Render.DigitCase
import TemplateVars.Proofs.Store.Listing
import TemplateVars.Proofs.Command.Listing
import TemplateVars.Proofs.Render.LongNames
import TemplateVars.Proofs.Render.Markup
import TemplateVars.Proofs.Page.Readings
import TemplateVars.Proofs.Page.Patch
import TemplateVars.Proofs.Render.InPlace
import TemplateVars.Proofs.Verb.Arguments
import TemplateVars.Proofs.Toml.Quoted
import TemplateVars.Proofs.Toml.Reader
import TemplateVars.Proofs.Config
import TemplateVars.Proofs.Render.Ascent
import TemplateVars.Proofs.Render.Filling
import TemplateVars.Proofs.Scope.Routing
