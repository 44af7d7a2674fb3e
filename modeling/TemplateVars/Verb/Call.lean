import TemplateVars.Scope.Node
import TemplateVars.Text.Blank

/-!
# Verb calls

A verb receives the arguments of a parser function call, such as
`define:name|value|case=any|if=…`. An argument of the form `key=value` whose
key is a known option sets that option; of the others the first is the name,
the second the value, and the rest are further names.
-/

namespace TemplateVars

/-- The options of a verb call. -/
structure VerbOptions where
  /-- `case=any`: names match in any case. -/
  anyCase : Bool := false
  /-- Outcome of the condition `if=`. -/
  ifTrue : Option Bool := none
  /-- Outcome of the condition `ifnot=`. -/
  ifNot : Option Bool := none
  /-- `shift=`: unsetting a position closes the gap. -/
  shift : Bool := false
  /-- `savemarkup=`: saving keeps the unexpanded source. -/
  saveMarkup : Bool := false
  /-- `set=`: the set to save to or load from. -/
  setName : Option String := none
  deriving DecidableEq

/-- Whether the conditions of a call let its verb run. -/
def VerbOptions.gateOpen (o : VerbOptions) : Bool := o.ifTrue.getD true && !o.ifNot.getD false

/-- A call of a verb. -/
structure VerbCall where
  name : String
  /-- The value, as it was handed over. -/
  value : Option Node := none
  extra : List String := []
  options : VerbOptions := {}
  deriving DecidableEq

namespace VerbCall

/-- Cut a text at its first equals sign. -/
def splitOption (source : String) : Option (String × String) :=
  match source.toList.span (· != '=') with
  | (key, _ :: value) => some (String.ofList key, String.ofList value)
  | (_, []) => none

/-- Whether a text is `any`, with ASCII letters in any case. -/
def isAny (s : String) : Bool := s.toList.map Char.toLower == ['a', 'n', 'y']

/-- Set the option named by a key, if there is one. Conditions are judged by `truthy`. -/
def setOption? (truthy : String → Bool) (key value : String) (o : VerbOptions) :
    Option VerbOptions :=
  match key with
  | "case" => some { o with anyCase := isAny value }
  | "if" => some { o with ifTrue := some (truthy value) }
  | "ifnot" => some { o with ifNot := some (truthy value) }
  | "shift" => some { o with shift := truthy value }
  | "savemarkup" => some { o with saveMarkup := truthy value }
  | "set" => some { o with setName := some value }
  | _ => none

/-- Take an argument as an option, if it is one. -/
def readOption? (truthy : String → Bool) (arg : Node) (o : VerbOptions) : Option VerbOptions :=
  (splitOption arg.source).bind fun (key, value) =>
    setOption? truthy (Text.trim key) (Text.trim value) o

/-- Part the arguments into the options they set and the arguments that set none. -/
def partArguments (truthy : String → Bool) (o : VerbOptions) : List Node → VerbOptions × List Node
  | [] => (o, [])
  | arg :: rest =>
    match readOption? truthy arg o with
    | some o => partArguments truthy o rest
    | none =>
      let (o, others) := partArguments truthy o rest
      (o, arg :: others)

/-- The trimmed source of an argument. -/
def trimmed (arg : Node) : String := Text.trim arg.source

/-- Read the arguments of a call. -/
def ofArguments (truthy : String → Bool) (args : List Node) : VerbCall :=
  let (options, others) := partArguments truthy {} args
  { name := (others.head?.map trimmed).getD ""
    value := others[1]?
    extra := ((others.drop 2).map trimmed).filter (· ≠ "")
    options }

/-- The names of a call whose verb takes a list of names: blank ones are left out. -/
def names (call : VerbCall) : List String :=
  let second := (call.value.map trimmed).getD ""
  ([call.name, second].filter (· ≠ "")) ++ call.extra

/-- The value of a call, empty where none is given. -/
def valueNode (call : VerbCall) : Node := call.value.getD (.text "")

end VerbCall

end TemplateVars
