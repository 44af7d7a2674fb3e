import TemplateVars.Log.Pattern.Matching
import TemplateVars.Log.Pattern.Reader
import TemplateVars.Text.Blank

/-!
# Log filters

Which messages of a log are shown. A filter consists of rules, each of which
sets the limit for the parts of the program whose name starts with its target;
the rule with the longest fitting target decides. A pattern may be asked for as
well. A filter is read from a text such as `warn,store=off/page`: rules
separated by commas, and behind a slash the pattern.
-/

namespace TemplateVars

/-- How much is told, from nothing to everything. -/
inductive LogLevel where
  | off
  | error
  /-- What deserves attention. -/
  | warn
  /-- What goes on. -/
  | info
  /-- What helps to find mistakes. -/
  | debug
  | trace
  deriving DecidableEq

namespace LogLevel

/-- The levels from the lowest to the highest. -/
def all : List LogLevel := [off, error, warn, info, debug, trace]

/-- The name of a level. -/
def name : LogLevel → String
  | off => "off"
  | error => "error"
  | warn => "warn"
  | info => "info"
  | debug => "debug"
  | trace => "trace"

/-- The place of a level among all. -/
def rank : LogLevel → Nat
  | off => 0
  | error => 1
  | warn => 2
  | info => 3
  | debug => 4
  | trace => 5

/-- The level with a name, in whatever case its letters are. -/
def ofName? (s : String) : Option LogLevel :=
  all.find? fun level => s.map Char.toLower == level.name

end LogLevel

/-- The limit for a part of the program. -/
structure LogRule where
  /-- How the names of the parts start; without one all parts are meant. -/
  target : Option String
  limit : LogLevel
  deriving DecidableEq

namespace LogRule

/-- The number of bytes of a target. -/
def width (r : LogRule) : Nat := (r.target.map String.utf8ByteSize).getD 0

/-- Whether a rule is about a part of the program. -/
def covers (r : LogRule) (part : String) : Bool :=
  r.target.all fun target => target.toList.isPrefixOf part.toList

/-- Read a rule; a level alone is about all parts, a target alone lets everything pass. -/
def read? (s : String) : Option LogRule :=
  match s.splitOn "=" with
  | [word] =>
    match LogLevel.ofName? word with
    | some level => some ⟨none, level⟩
    | none => some ⟨some word, .trace⟩
  | [target, word] =>
    if Text.trim word = "" then some ⟨some target, .trace⟩
    else (LogLevel.ofName? (Text.trim word)).map fun level => ⟨some target, level⟩
  | _ => none

/-- Put a rule in the place of the one with its target, or behind all. -/
def put (r : LogRule) : List LogRule → List LogRule
  | [] => [r]
  | first :: rest => if first.target = r.target then r :: rest else first :: put r rest

end LogRule

/-- Which messages are shown. -/
structure LogFilter where
  /-- The rules; of those with targets of one length, the last one counts. -/
  rules : List LogRule
  /-- What messages must match. -/
  pattern : Option Pattern := none

namespace LogFilter

/-- The filter with one limit for all. -/
def upTo (limit : LogLevel) : LogFilter := { rules := [⟨none, limit⟩] }

/-- The rules that a text lists; what makes no sense is passed over. -/
def readRules (s : String) : List LogRule :=
  let words := ((s.splitOn ",").map Text.trim).filter (· ≠ "")
  (words.filterMap LogRule.read?).foldl (fun rules r => r.put rules) []

/-- The filter with some rules; without any, only failures are shown. -/
def ofRules (rules : List LogRule) (pattern : Option Pattern) : LogFilter :=
  if rules.isEmpty then { upTo .error with pattern } else { rules, pattern }

/-- Read a filter; with more than one slash it has neither rules nor a pattern. -/
def read (s : String) : LogFilter :=
  match s.splitOn "/" with
  | [rules] => ofRules (readRules rules) none
  | [rules, pattern] => ofRules (readRules rules) (Pattern.read? pattern)
  | _ => ofRules [] none

/-- The rule that decides on a part of the program. -/
def deciding? (f : LogFilter) (part : String) : Option LogRule :=
  ((f.rules.mergeSort fun a b => a.width ≤ b.width).reverse).find? (·.covers part)

/-- Whether a message of a level is shown. -/
def shows (f : LogFilter) (level : LogLevel) (part words : String) : Bool :=
  (f.deciding? part).any (level.rank ≤ ·.limit.rank) && f.pattern.all (·.occursIn words)

end LogFilter

end TemplateVars
