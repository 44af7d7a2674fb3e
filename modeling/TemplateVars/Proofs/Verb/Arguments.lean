import Mathlib.Data.List.Induction
import Mathlib.Data.List.TakeDrop
import Mathlib.Logic.Function.Basic
import TemplateVars.Verb.Call

/-!
# Arguments of a call in any order

An argument of a call is an option or it is not, whatever stands around it. So
the arguments part into kinds, one for each option and one for all the rest, and
a call is made of its kinds: of an option its last value counts, and the rest
gives the name, the value and the further names in their order. Arguments that
are rearranged make the same call so long as each kind keeps its own order.
-/

namespace TemplateVars

/-- The options that a call can be given. -/
inductive OptionKey where
  | anyCase
  | ifTrue
  | ifNot
  | shift
  | saveMarkup
  | setName
  deriving DecidableEq

namespace OptionKey

/-- The word by which an option is given. -/
def word : OptionKey → String
  | anyCase => "case"
  | ifTrue => "if"
  | ifNot => "ifnot"
  | shift => "shift"
  | saveMarkup => "savemarkup"
  | setName => "set"

/-- The option that is given by a word. -/
def ofWord? : String → Option OptionKey
  | "case" => some anyCase
  | "if" => some ifTrue
  | "ifnot" => some ifNot
  | "shift" => some shift
  | "savemarkup" => some saveMarkup
  | "set" => some setName
  | _ => none

theorem ofWord?_word (key : OptionKey) : ofWord? key.word = some key := by
  cases key <;> rfl

theorem ofWord?_eq_some {word : String} {key : OptionKey} :
    ofWord? word = some key ↔ key.word = word := by
  constructor
  · intro given
    unfold ofWord? at given
    split at given <;> cases given <;> rfl
  · rintro rfl
    exact ofWord?_word key

end OptionKey

namespace VerbOptions

/-- The options of a call, by the value that each is given. -/
def ofValues (truthy : String → Bool) (value? : OptionKey → Option String) : VerbOptions where
  anyCase := (value? .anyCase).any VerbCall.isAny
  ifTrue := (value? .ifTrue).map truthy
  ifNot := (value? .ifNot).map truthy
  shift := (value? .shift).any truthy
  saveMarkup := (value? .saveMarkup).any truthy
  setName := value? .setName

/-- Give an option a value. -/
def assign (truthy : String → Bool) (o : VerbOptions) : OptionKey × String → VerbOptions
  | (.anyCase, value) => { o with anyCase := VerbCall.isAny value }
  | (.ifTrue, value) => { o with ifTrue := some (truthy value) }
  | (.ifNot, value) => { o with ifNot := some (truthy value) }
  | (.shift, value) => { o with shift := truthy value }
  | (.saveMarkup, value) => { o with saveMarkup := truthy value }
  | (.setName, value) => { o with setName := some value }

theorem assign_ofValues (truthy : String → Bool) (value? : OptionKey → Option String)
    (key : OptionKey) (value : String) :
    (ofValues truthy value?).assign truthy (key, value) =
      ofValues truthy (Function.update value? key (some value)) := by
  cases key <;> simp [ofValues, assign]

end VerbOptions

namespace VerbCall

/-- The option that an argument gives and the value it gives it. -/
def option? (arg : Node) : Option (OptionKey × String) :=
  (splitOption arg.source).bind fun parts =>
    (OptionKey.ofWord? (Text.trim parts.1)).map fun key => (key, Text.trim parts.2)

/-- The kind of an argument: the option that it gives, or none. -/
def kind? (arg : Node) : Option OptionKey := (option? arg).map (·.1)

/-- The arguments of a kind in their order. -/
def ofKind (kind : Option OptionKey) (args : List Node) : List Node :=
  args.filter (kind? · = kind)

/-- The values that an option is given, in order. -/
def values (key : OptionKey) (args : List Node) : List String :=
  (ofKind (some key) args).filterMap fun arg => (option? arg).map (·.2)

/-- An argument spells an option: its word and its value stand around the first equals sign. -/
def Spells (arg : Node) (key : OptionKey) (value : String) : Prop :=
  ∃ before after : List Char, '=' ∉ before ∧ arg.source.toList = before ++ '=' :: after ∧
    Text.trim (String.ofList before) = key.word ∧ Text.trim (String.ofList after) = value

theorem splitOption_eq_some {source key value : String} :
    splitOption source = some (key, value) ↔
      '=' ∉ key.toList ∧ source.toList = key.toList ++ '=' :: value.toList := by
  rw [splitOption, List.span_eq_takeWhile_dropWhile]
  constructor
  · intro split
    have whole := List.takeWhile_append_dropWhile (p := (· != '=')) (l := source.toList)
    cases rest : source.toList.dropWhile (· != '=') with
    | nil =>
        rw [rest] at split
        cases split
    | cons c after =>
        have sign : c = '=' := by
          have stops := List.head?_dropWhile_not (· != '=') source.toList
          rw [rest] at stops
          simpa using stops
        rw [rest, sign] at whole
        rw [rest] at split
        cases split
        rw [String.toList_ofList, String.toList_ofList, whole]
        refine ⟨fun inside => ?_, rfl⟩
        have passes := List.all_eq_true.1 List.all_takeWhile _ inside
        simp at passes
  · rintro ⟨apart, whole⟩
    have passes : ∀ c ∈ key.toList, (c != '=') = true := by
      intro c inside
      rw [bne_iff_ne]
      rintro rfl
      exact apart inside
    rw [whole, List.takeWhile_append_of_pos passes, List.dropWhile_append_of_pos passes]
    simp

theorem option?_eq_some {arg : Node} {key : OptionKey} {value : String} :
    option? arg = some (key, value) ↔ Spells arg key value := by
  simp only [option?, Option.bind_eq_some_iff, Option.map_eq_some_iff, Prod.exists, Prod.mk.injEq,
    splitOption_eq_some, OptionKey.ofWord?_eq_some]
  constructor
  · rintro ⟨before, after, ⟨apart, whole⟩, key, word, rfl, same⟩
    exact ⟨before.toList, after.toList, apart, whole, by simpa using word.symm, by simpa using same⟩
  · rintro ⟨before, after, apart, whole, word, same⟩
    exact ⟨.ofList before, .ofList after, by simpa using ⟨apart, whole⟩, key, word.symm, rfl, same⟩

theorem setOption?_eq (truthy : String → Bool) (word value : String) (o : VerbOptions) :
    setOption? truthy word value o =
      (OptionKey.ofWord? word).map fun key => o.assign truthy (key, value) := by
  unfold setOption? OptionKey.ofWord?
  split <;> simp_all [VerbOptions.assign]

theorem readOption?_eq (truthy : String → Bool) (arg : Node) (o : VerbOptions) :
    readOption? truthy arg o = (option? arg).map (o.assign truthy) := by
  rw [readOption?, option?]
  cases splitOption arg.source with
  | none => rfl
  | some parts =>
      rcases parts with ⟨word, value⟩
      simp only [Option.bind_some, setOption?_eq, Option.map_map]
      rfl

/-- Reading the arguments one by one sorts them: options take effect, all others are kept. -/
theorem partArguments_eq (truthy : String → Bool) (o : VerbOptions) (args : List Node) :
    partArguments truthy o args =
      ((args.filterMap option?).foldl (VerbOptions.assign truthy) o, ofKind none args) := by
  induction args generalizing o with
  | nil => rfl
  | cons arg args ih =>
      rw [partArguments, readOption?_eq, List.filterMap_cons, ofKind, List.filter_cons, kind?]
      cases option? arg with
      | none => simp [ih, ofKind]
      | some given => simp [ih, ofKind]

theorem values_append (key : OptionKey) (args rest : List Node) :
    values key (args ++ rest) = values key args ++ values key rest := by
  simp [values, ofKind]

theorem values_of_option {arg : Node} {own : OptionKey} {value : String}
    (given : option? arg = some (own, value)) (key : OptionKey) :
    values key [arg] = if key = own then [value] else [] := by
  by_cases same : key = own
  · simp [values, ofKind, kind?, given, same]
  · simp [values, ofKind, kind?, given, same, Ne.symm same]

/-- Of the values that an option is given the last one counts. -/
theorem foldl_assign (truthy : String → Bool) (args : List Node) :
    (args.filterMap option?).foldl (VerbOptions.assign truthy) {} =
      VerbOptions.ofValues truthy fun key => (values key args).getLast? := by
  induction args using List.reverseRecOn with
  | nil => rfl
  | append_singleton args arg ih =>
      rw [List.filterMap_append, List.foldl_append, ih]
      simp only [values_append]
      cases given : option? arg with
      | none => simp [values, ofKind, kind?, given]
      | some pair =>
          rcases pair with ⟨own, value⟩
          have last : (fun key => (values key args ++ values key [arg]).getLast?) =
              Function.update (fun key => (values key args).getLast?) own (some value) := by
            funext key
            rw [values_of_option given, Function.update_apply]
            split <;> simp
          rw [last, ← VerbOptions.assign_ofValues]
          simp [given]

/-- Whichever order the arguments stand in, those of each kind come in the same order. -/
def SameByKind (args args' : List Node) : Prop := ∀ kind, ofKind kind args = ofKind kind args'

theorem SameByKind.perm {args args' : List Node} (same : SameByKind args args') :
    args.Perm args' := by
  rw [List.perm_iff_count]
  intro arg
  have counted := congrArg (List.count arg) (same (kind? arg))
  rwa [ofKind, ofKind, List.count_filter (by simp), List.count_filter (by simp)] at counted

/-- What a call is made of: its options by their last values, and what is no option in order. -/
structure IsReading (truthy : String → Bool) (args : List Node) (call : VerbCall) : Prop where
  name_eq : call.name = ((ofKind none args).head?.map trimmed).getD ""
  value_eq : call.value = (ofKind none args)[1]?
  options_eq : call.options = .ofValues truthy fun key => (values key args).getLast?
  names_eq : call.names = ((ofKind none args).map trimmed).filter (· ≠ "")

theorem isReading_ofArguments (truthy : String → Bool) (args : List Node) :
    IsReading truthy args (ofArguments truthy args) := by
  have parted := partArguments_eq truthy {} args
  rw [foldl_assign] at parted
  have read : ofArguments truthy args =
      { name := ((ofKind none args).head?.map trimmed).getD ""
        value := (ofKind none args)[1]?
        extra := (((ofKind none args).drop 2).map trimmed).filter (· ≠ "")
        options := .ofValues truthy fun key => (values key args).getLast? } := by
    rw [ofArguments, parted]
  refine ⟨by rw [read], by rw [read], by rw [read], ?_⟩
  rw [read, names]
  -- the first two names are tested one by one, all further ones in a row
  rcases ofKind none args with _ | ⟨first, _ | ⟨second, rest⟩⟩
  · rfl
  · by_cases blank : trimmed first = "" <;> simp [blank]
  · by_cases blank : trimmed first = "" <;> by_cases blank' : trimmed second = "" <;>
      simp [blank, blank']

theorem ofArguments_of_sameByKind {args args' : List Node} (same : SameByKind args args')
    (truthy : String → Bool) : ofArguments truthy args = ofArguments truthy args' := by
  have values_eq (key : OptionKey) : values key args = values key args' := by
    rw [values, same, values]
  simp only [ofArguments, partArguments_eq, foldl_assign, values_eq, same none]

/--
A call reads the same wherever its options stand. An argument is an option by
its own text; the others give name, value and names in their order, and each
option has the last value it is given. So arguments make the same call in any
order that leaves those of each kind in theirs.
-/
theorem reads_anywhere (truthy : String → Bool) (args : List Node) :
    (∀ arg key value, option? arg = some (key, value) ↔ Spells arg key value) ∧
      IsReading truthy args (ofArguments truthy args) ∧
      ∀ args', SameByKind args args' →
        args.Perm args' ∧ ofArguments truthy args' = ofArguments truthy args :=
  ⟨fun _ _ _ => option?_eq_some, isReading_ofArguments truthy args,
    fun _ same => ⟨same.perm, (ofArguments_of_sameByKind same truthy).symm⟩⟩

/-- A known word makes an option wherever it stands, any other text with an equals sign is kept. -/
example :
    ofArguments (· == "1")
        [.text "if=1", .markup " a=b ", .text " case = ANY", .text " ", .text "if=0", .text "c "] =
      { name := "a=b", value := some (.text " "), extra := ["c"],
        options := { anyCase := true, ifTrue := some false } } := by
  decide +kernel

end VerbCall

end TemplateVars
