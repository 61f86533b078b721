import Collation.Text

/-! Modes of a program, which the first argument chooses by name or by the start of a name. -/

namespace Collation

/-- A mode with its name, what it is for, and what it does. -/
structure Mode (α : Type) where
  name : Text
  description : Text
  action : α

namespace Mode

variable {α : Type}

/-- Modes with pairwise different names. A repeated name keeps its place and takes the last mode. -/
def insert (modes : List (Mode α)) (m : Mode α) : List (Mode α) :=
  if modes.any (·.name = m.name) then modes.map fun n => if n.name = m.name then m else n
  else modes ++ [m]

def ofList (modes : List (Mode α)) : List (Mode α) :=
  modes.foldl insert []

/-- The mode with a name, or else all modes whose names start with it. In place of an empty name
stands the default, and if that is empty too, there is no mode. -/
def candidates (modes : List (Mode α)) (default given : Text) : List (Mode α) :=
  let name := if given.isEmpty then default else given
  if name.isEmpty then []
  else match modes.find? (·.name = name) with
    | some m => [m]
    | none => modes.filter (name.isPrefixOf ·.name)

inductive Fault where
  | missing
  | unknown (name : Text)
  | ambiguous (name : Text)
  deriving DecidableEq, Repr

def Fault.message : Fault → Text
  | missing => "An operation mode is required as the first command-line argument."
  | unknown name => "No matches for operation \"" ++ name ++ "\"."
  | ambiguous name =>
    "Operation \"" ++ name ++ "\" has multiple matches. Use more characters."

/-- The only candidate. -/
def choose (modes : List (Mode α)) (default given : Text) : Except Fault (Mode α) :=
  match candidates modes default given with
  | [m] => .ok m
  | [] => .error (if given.isEmpty then .missing else .unknown given)
  | _ => .error (.ambiguous given)

/-- What is shown when no mode can be chosen: the fault, and all modes. -/
def refusal (modes : List (Mode α)) (fault : Fault) : Text :=
  let line (m : Mode α) : Text := m.name ++ " - " ++ m.description
  let lines : List Text :=
    [fault.message, [], "Currently available operations:"] ++ modes.map line
  lines.flatMap (· ++ ['\n'])

/-- What a program returns when no mode can be chosen. -/
def refusalCode : Int := -1

end Mode

/-- Takes the first argument off a command line. It stays with the script, as a second word of its
name. -/
def shiftArguments : List Text → Text × List Text
  | script :: head :: tail => (head, (script ++ ' ' :: head) :: tail)
  | argv => ([], argv)

end Collation
