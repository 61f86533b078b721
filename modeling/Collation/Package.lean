import Collation.Rule.File
import Collation.Value.Function

/-! The modules that the program is shipped with, and their functions by name. -/

namespace Collation.Package

/-- A module by its full name. The module of a directory can have modules in it. -/
structure Module where
  name : Text
  isDirectory : Bool
  deriving DecidableEq, Repr

def root : Text := "rule_collator"

def modules : List Module :=
  let directory (name : String) : Module := ⟨root ++ name.toList, true⟩
  let file (name : String) : Module := ⟨root ++ name.toList, false⟩
  [directory "", directory ".assets", directory ".rules", directory ".util"] ++
    [".__init__", ".__main__", ".app", ".collator", ".compare", ".keys", ".main_compare",
      ".main_sort", ".main_table", ".options", ".rules.__init__", ".rules.io", ".rules.parser",
      ".rules.table", ".sorter", ".util.__init__", ".util.cmdline", ".util.config",
      ".util.entrypoints", ".util.exception", ".util.log", ".util.parallel", ".util.path"].map file

/-- The name that a module is shipped under. It may be asked for with a point in front. -/
def properName (name : Text) : Text :=
  if name.head? = some '.' then name.tail else name

def module? (name : Text) : Option Module :=
  (modules.find? (·.name = properName name)).map fun m => { m with name := name }

/-- The names of all modules that a module is in, from the outermost on, and its own name. -/
def namesTo (name : Text) : List Text :=
  let parts := Text.splitAt '.' name
  ((List.range parts.length).map fun k => Text.join ['.'] (parts.take (k + 1))).filter
    (!·.isEmpty)

/-- The module with a name, where the module that it is in has been found. A point in front of the
outermost name makes it the name of a module in one without a name. -/
def findIn (outer : Option Module) (name : Text) : Except Failure Module :=
  match outer with
  | some m =>
    if m.name.head? = some '.' then .error .emptyModuleName
    else if m.isDirectory then (module? name).elim (.error (.noModule name)) .ok
    else .error (.noSubmodule name m.name)
  | none => (module? name).elim (.error (.noModule name)) .ok

/-- The module with a name. All modules that it is in have to be there. -/
def find (name : Text) : Except Failure Module := do
  match ← (namesTo name).foldlM (fun outer n => (findIn outer n).map some) none with
  | some m => return m
  | none => throw .emptyModuleName

/-- The directory that a module lies in, where the directory of the root is given. Data alone make
no directory. -/
def directory (rootPath name : Text) : Except Failure Text := do
  let m ← find name
  if name.head? = some '.' then throw .emptyModuleName
  else if name = root ++ ".assets" then return rootPath
  else
    let parts := Text.splitAt '.' name
    let names := (if m.isDirectory then parts else parts.dropLast).drop 1
    return rootPath ++ names.flatMap ('/' :: ·)

/-- Decodes the text of a rule file. A value of another kind has no lines. -/
def decodeRules (a : Arguments) : Except Failure Value := do
  let comment? ← match a.named with
    | [] => pure Rule.commentSign
    | [(name, .text t)] => if name = "comment_prefix".toList then pure t else throw .type
    | _ => throw .type
  match a.placed with
  | [.text t] => return .text (Rule.decodeFile comment? t)
  | [.bytes bs] => if bs.isEmpty then return .text [] else throw .type
  | [v] => throw (.noAttribute v.kindName "splitlines")
  | _ => throw .type

/-- What a directory has by a name: a module in it, which cannot be called, or nothing. -/
def functionInDirectory (m : Module) (name : Text) : Except Failure Function :=
  let full := m.name ++ '.' :: name
  match find full with
  | .ok _ => .error (if name.contains '.' then .noFunction m.name name else .type)
  | .error (.noModule n) =>
    .error (if n = full then .noFunction m.name name else .noModule n)
  | .error (.noSubmodule n parent) =>
    .error (if n = full then .noFunction m.name name else .noSubmodule n parent)
  | .error _ => .error (.noFunction m.name name)

def function (module_ name : Text) : Except Failure Function := do
  let m ← find module_
  let isIn (file : String) : Bool := properName m.name = root ++ file.toList
  if m.isDirectory then functionInDirectory m name
  else if isIn ".util.config" && name = "eval_str".toList then return Function.setting
  else if isIn ".rules.io" && name = "decode_rule_file".toList then return decodeRules
  else throw (.noFunction m.name name)

end Collation.Package
