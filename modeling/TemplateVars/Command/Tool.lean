import TemplateVars.Command.Run
import TemplateVars.Log.Filter

/-!
# The command line tool

A run of the tool reads its words, finds the configuration, runs the command and
ends with a code: 0 when all is well, 1 when the command fails and 2 when the
words make no sense.
-/

namespace TemplateVars

/-- What a run of the tool finds when it starts. -/
structure Launch where
  words : List String
  environment : Environment
  /-- Whether a terminal shows the output. -/
  onTerminal : Bool := false
  now : Timestamp

/-- What a run of the tool leaves besides its work. -/
structure Outcome where
  code : Nat
  /-- The text to show. -/
  output : String := ""
  notices : List Notice := []
  /-- Whether the notices are written in colour. -/
  styled : Bool := false
  error : Option String := none
  deriving DecidableEq

namespace Tool

/-- The configuration file that is used if there is one. -/
def usualConfig : Path := .ofText "wikivars.toml"

/-- The line that names the tool and its version. -/
def versionLine : String := "wikivars 0.1.0"

/-- The lines that tell how the tool is used. -/
def helpLines : List String := [
  "Inspect and maintain stored wiki variable sets",
  "",
  "Usage: wikivars [OPTIONS] <COMMAND>",
  "",
  "Commands:",
  "  list   List pages with stored sets",
  "  show   Show the stored sets of a page",
  "  purge  Remove everything stored for a page",
  "  diff   Plan storing rendered sets from a JSON file against a page",
  "  help   Print this message or the help of the given subcommand(s)",
  "",
  "Options:",
  "      --config <CONFIG>  Engine configuration (defaults to ./wikivars.toml when present)",
  "      --store <STORE>    Store directory, overriding store.path from the configuration",
  "  -v, --verbose",
  "  -h, --help             Print help",
  "  -V, --version          Print version"]

/--
Whether colours are shown: they can be forced on, or else forced off, and without
either they are shown on a terminal.
-/
def usesColor (env : Environment) (onTerminal : Bool) : Bool :=
  if (env.lookup "CLICOLOR_FORCE").any (· != "0") then true
  else if (env.lookup "NO_COLOR").isSome then false
  else onTerminal && (env.lookup "CLICOLOR").all (· != "0")

/--
Whether notices are written in colour: a style for the log decides first; else
that can be forced off, or else forced on, and without either they are coloured
on a terminal. Any text forces, even "0"; only an empty one does not.
-/
def stylesNotices (env : Environment) (onTerminal : Bool) : Bool :=
  match env.lookup "RUST_LOG_STYLE" with
  | some "always" => true
  | some "never" => false
  | _ =>
    if (env.lookup "NO_COLOR").any (· != "") then false
    else if (env.lookup "CLICOLOR_FORCE").any (· != "") then true
    else onTerminal && (env.lookup "CLICOLOR").all (· != "0")

/-- Which notices are written: those that the environment asks for, else all that matter. -/
def logFilter (env : Environment) (verbose : Bool) : LogFilter :=
  match env.lookup "RUST_LOG" with
  | some text => .read text
  | none => .upTo (if verbose then .debug else .warn)

/-- The configuration in a file. -/
def loadConfig (d : Disk) (path : Path) : Except CommandError Config :=
  (Config.load d path).mapError (.config path)

/-- The configuration of an invocation: a file's, or what is usual, with the store replaced. -/
def configuration (d : Disk) (i : Invocation) : Except CommandError Config := do
  let config ←
    match i.config with
    | some path => loadConfig d path
    | none => if d.pathExists usualConfig then loadConfig d usualConfig else pure {}
  match i.store with
  | some path => return { config with store := { config.store with path := path.text } }
  | none => return config

/-- Find the configuration and run the command. -/
def invoke (l : Launch) (i : Invocation) : CommandAction String := do
  let config ← ExceptT.mk (pure (configuration (← get).host.disk i))
  let colored := usesColor l.environment l.onTerminal
  i.command.run { config, colored, verbose := i.verbose, now := l.now }

/-- A run of the tool on a host. -/
def run (l : Launch) : StateM Host Outcome := fun host =>
  match Invocation.read l.environment l.words with
  | .error .misuse => ({ code := 2 }, host)
  | .error .help => ({ code := 0, output := textOfLines helpLines }, host)
  | .error .version => ({ code := 0, output := textOfLines [versionLine] }, host)
  | .ok i =>
    let (result, console) := (invoke l i).run.run { host }
    let outcome : Outcome :=
      match result with
      | .ok output => { code := 0, output }
      | .error e => { code := 1, error := some ("Error: " ++ e.message) }
    let filter := logFilter l.environment i.verbose
    let notices := console.notices.filter fun n => filter.shows .warn n.target n.words
    let styled := stylesNotices l.environment l.onTerminal
    ({ outcome with notices, styled }, console.host)

end Tool

end TemplateVars
