import TemplateVars.Command.Words
import TemplateVars.Disk.Path
import TemplateVars.Saved.Name

/-!
# Commands

What the command line tool can be asked for, and how that is read from its words
and from the environment. Some options may stand before or behind the name of
the command; the one behind it counts. Where neither is given, an environment
variable may take their place.
-/

namespace TemplateVars

/-- What the tool is asked to do. -/
inductive Command where
  | list (json : Bool)
  /-- Show the stored sets of a page, or one of them. -/
  | display (page : PageId) (set : Option String) (json : Bool)
  /-- Remove all that is stored for a page. -/
  | purge (page : PageId)
  /-- Plan to store the rendered sets in a file, and store them if asked to. -/
  | diff (page : PageId) (file : Path) (rev : Option RevId) (apply json : Bool)
  deriving DecidableEq

/-- A command with the settings given along with it. -/
structure Invocation where
  config : Option Path
  /-- The directory of the store, in place of the configured one. -/
  store : Option Path
  verbose : Bool
  command : Command
  deriving DecidableEq

/-- What the surroundings of a run provide by name. -/
abbrev Environment := List (String × String)

namespace Command

/-- The options of every command. -/
def globalSwitches : List Switch := [.config, .store, .verbose, .help]

/-- What may stand before the name of a command. -/
def outerGrammar : Grammar := ⟨.version :: globalSwitches, []⟩

/-- What may stand behind the name of a command. -/
def grammar? : String → Option Grammar
  | "list" => some ⟨.json :: globalSwitches, []⟩
  | "show" => some ⟨.set :: .json :: globalSwitches, [.number]⟩
  | "purge" => some ⟨globalSwitches, [.number]⟩
  | "diff" => some ⟨.rev :: .apply :: .json :: globalSwitches, [.number, .path]⟩
  | _ => none

/-- The number that a word stands for. -/
def number? (word : String) : Option Nat := Text.readNumber? Text.maxWord64 word

/-- The command with a name, given what stands behind it. -/
def ofGiven? (name : String) (g : Given) : Option Command :=
  match name, g.operands with
  | "list", [] => some (.list (g.has .json))
  | "show", [page] => return .display (← number? page) (g.value? .set) (g.has .json)
  | "purge", [page] => return .purge (← number? page)
  | "diff", [page, file] =>
    return .diff (← number? page) (.ofText file) ((g.value? .rev).bind number?) (g.has .apply)
      (g.has .json)
  | _, _ => none

end Command

namespace Invocation

/-- The environment variable that can take the place of an option. -/
def substitute? : Switch → Option String
  | .config => some "WIKIVARS_CONFIG"
  | .store => some "WIKIVARS_STORE"
  | _ => none

/--
The value of an option that may stand on either side of the command's name. The
variable in its place is looked at on each side that lacks the option.
-/
def setting (env : Environment) (outer inner : Given) (s : Switch) : Except Stop (Option String) :=
  let fallback := (substitute? s).bind fun name => env.lookup name
  let bad := fallback.any fun value => s.kind?.any (!·.accepts value)
  if bad && !(outer.has s && inner.has s) then .error .misuse
  else .ok ((inner.value? s).or ((outer.value? s).or fallback))

/-- A request for help on the commands named by some words. -/
def helpOn : List String → Stop
  | [] | ["help"] => .help
  | [name] => if (Command.grammar? name).isSome then .help else .misuse
  | _ => .misuse

/-- What the words of a command line ask for. -/
def read (env : Environment) (words : List String) : Except Stop Invocation := do
  let (outer, rest) ← Command.outerGrammar.read {} words
  match rest with
  | [] => throw .misuse
  | "help" :: rest => throw (helpOn rest)
  | name :: rest =>
    let some grammar := Command.grammar? name | throw .misuse
    let (inner, rest) ← grammar.read {} rest
    let some command := Command.ofGiven? name inner | throw .misuse
    if rest ≠ [] then throw .misuse
    let config ← setting env outer inner .config
    let store ← setting env outer inner .store
    return {
      config := config.map .ofText
      store := store.map .ofText
      verbose := outer.has .verbose || inner.has .verbose
      command }

end Invocation

end TemplateVars
