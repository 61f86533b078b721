import Collation.Config.Values
import Collation.Option.Arguments
import Collation.Option.Help
import Collation.Path

/-! Options with their values: from the command line, from sources of lower rank, or by default. -/

namespace Collation

/-- Declared options by name, their values, the names that the command line has given, and the
positional arguments. A constant is the value of a name that no option has. -/
structure OptionStore where
  description : Text
  constants : Config.Values
  specs : List (Text × OptionSpec)
  values : Config.Values
  given : List Text
  positional : List Text

namespace OptionStore

/-- Why a command line gives no values: a fault in it, or a request for help. -/
inductive Stop where
  | failure (e : Failure)
  | help (text : Text)

variable (o : OptionStore)

def empty (description : Text) : OptionStore :=
  ⟨description, [], [], [], [], []⟩

def defaultDescription : Text := "Command line application."

def nameOf (t : Text) : Text :=
  t.map fun c => if c = '-' then '_' else c

/-- Declares an option. One of that name keeps its place. -/
def add (name : Text) (default : Value) (description : Text) : OptionStore :=
  let n := nameOf name
  let spec : OptionSpec := ⟨'-' :: '-' :: name, description, OptionKind.ofDefault default⟩
  let specs :=
    if o.specs.any (·.1 = n) then o.specs.map fun s => if s.1 = n then (n, spec) else s
    else o.specs ++ [(n, spec)]
  { o with specs := specs, values := o.values.put n default }

/-- What the store tells of itself, by names that start with a low line. -/
def inner : Config.Values :=
  [("_app_description", .text o.description), ("_args", .list (o.positional.map .text)),
    ("_parsed", .set (o.given.map .text))]

def get (name : Text) : Except Failure Value :=
  match [o.values, o.constants, o.inner].findSome? (·.get? name) with
  | some v => .ok v
  | none => .error (.noOption name)

/-- Whether an option has taken the name of an action, which cannot be reached by it any more. -/
def hides (name : Text) : Bool :=
  ["add", "parse", "args", "update_defaults"].any (·.toList = name) && o.specs.any (·.1 = name)

def ofKey? (key : Text) : Option (Text × OptionSpec) :=
  o.specs.find? (·.2.key = key)

def scriptName (script : Text) : Text :=
  if script.isEmpty then "?" else Path.lastName script

def help (script : Text) : Except Failure Text :=
  Help.text Help.defaultLimit (scriptName script) o.description (o.specs.map Prod.snd)

/-- Reads one group: the text after the first equals sign is the first argument. -/
def group (script : Text) (g : ArgumentGroup) : Except Stop (Text × Value) :=
  let (key, first) := Text.cut '=' g.key
  if key = "-h".toList || key = "--help".toList then
    match o.help script with
    | .ok t => .error (.help t)
    | .error e => .error (.failure e)
  else match o.ofKey? key with
    | none => .error (.failure (.unknownOption key))
    | some (name, spec) =>
      match spec.kind.convert spec.key (first.toList ++ g.arguments) with
      | .ok v => .ok (name, v)
      | .error e => .error (.failure e)

/-- Reads a command line, of which the first word is the script. Nothing changes unless all of it
can be read. -/
def parse (argv : List Text) : Except Stop OptionStore := do
  let script := argv.headD []
  let split := splitArguments argv.tail
  let read ← split.groups.mapM (o.group script)
  return { o with
    values := o.values.putAll read
    given := (o.given ++ read.map Prod.fst).eraseDups
    positional := split.positional }

/-- Values of a source of lower rank, for options that the command line has not given. -/
def applicable (vs : Config.Values) : Config.Values :=
  let known := (vs.map fun p => (nameOf p.1, p.2)).filter fun p =>
    o.specs.any (·.1 = p.1) && !o.given.contains p.1
  Config.Values.putAll [] known

def updateDefaults (vs : Config.Values) : OptionStore :=
  { o with values := o.values.putAll (o.applicable vs) }

end OptionStore

end Collation
