import Collation.Config.File
import Collation.Option.Store
import Collation.Setting

/-! The options that every program of the collation takes, and what their values stand for. -/

namespace Collation

namespace OptionStore

/-- The name under which the program keeps the data of a user. -/
def dataName : Text := "rule_collator"

/-- What stands for the directory of the program in paths. -/
def packageSign : Text := ":/"

/-- What stands for the directory of the user's data in paths. -/
def userSign : Text := "~/"

def configSection : Text := "collator"

def libraryDescription : Text :=
  "Running the rule collator as a library (should never be seen)."

/-- Name, default value and description of each option. -/
def standardOptions : List (String × Value × String) :=
  [("log", .text [],
      "Text file to append status and errors to. Status always goes to stderr."),
    ("rules", .text [],
      "Collation rule text. Takes precedence over --rules-file."),
    ("rules-file", .text (packageSign ++ "assets/french.rules"),
      "UTF-8 rule file. Lines starting with # are comments."),
    ("strength", .text "tertiary",
      "Comparison strength: primary, secondary, tertiary or identical."),
    ("normalization", .text "NFC",
      "Unicode normalization form for rules and input (NFC, NFD, NFKC, NFKD or none)."),
    ("processes", .int 1,
      "Number of processes used to generate keys (0 = one per CPU core)."),
    ("config", .text (userSign ++ "config.cfg"),
      "CFG file with default options in its [collator] section.")]

def standardConstants : Config.Values :=
  [("ASSET_PATH_PREFIX", .text packageSign), ("USER_PATH_PREFIX", .text userSign),
    ("CONFIG_SECTION", .text configSection)]

def standard (description : Text) : OptionStore :=
  let start := { empty description with constants := standardConstants }
  standardOptions.foldl (fun o (name, default, d) => o.add name default d) start

variable (o : OptionStore)

def strength : Except Failure Strength := do
  Strength.ofSetting (← o.get "strength")

/-- The form is named in any case, with white space around it. Nothing, and the name `none`, are for
no normalization. -/
def form : Except Failure (Option Form) := do
  let v ← o.get "normalization"
  let name := if v.isTruthy then Text.upperAscii (Text.strip v.plain) else []
  if name.isEmpty || name = "NONE".toList then return none
  else match Form.ofName? name with
    | some form => return some form
    | none => throw (.form v)

variable {m : Type → Type} [Monad m] [Host m]

def pathRules : m Path.PrefixRules := do
  let home ← Host.home
  let package ← Host.package
  return (Path.PrefixRules.add [] packageSign package).add userSign (Path.userData home dataName)

/-- The path that an option gives. -/
def path (name : Text) : Attempt m Text := do
  match o.get name with
  | .error e => throw e
  | .ok (.text t) =>
    let rules ← (pathRules : m _)
    return rules.convert t
  | .ok (.bytes _) => throw .type
  | .ok v => throw (.noAttribute v.kindName "startswith")

def rulesPath : Attempt m Text :=
  o.path "rules_file"

def configPath : Attempt m Text :=
  o.path "config"

/-- The path of the log file, to which directories are made, or nothing if there is to be none. -/
def logPath : Attempt m Text := do
  match o.get "log" with
  | .error e => throw e
  | .ok v =>
    if v.isTruthy then
      let p ← o.path "log"
      Host.makeWay p
      return p
    else return []

/-- Takes the options of the configuration file that the command line has not given, and tells
whether there is such a file. -/
def loadConfig : Attempt m (OptionStore × Bool) := do
  let p ← o.configPath
  let (values, isThere) ← Config.readSection p configSection []
  return (o.updateDefaults values, isThere)

end OptionStore

end Collation
