import Collation.App
import Collation.Mode

/-! The programs of the command line: sorting lines, comparing two texts, and showing a table. -/

namespace Collation.Command

variable {m : Type → Type} [Monad m] [Host m]

/-- The name that stands for the standard input among file names. -/
def inputName : Text := "-"

/-- The lines of files, one after the other. -/
def readLines : List Text → Attempt m (List Text)
  | [] => return []
  | name :: rest => do
    let content ← if name = inputName then Host.readInput else Host.readText name
    return Text.lines content ++ (← readLines rest)

/-- A time in seconds with three decimal places. -/
def seconds (milliseconds : Nat) : Text :=
  let fraction := digits (milliseconds % 1000 : Nat)
  digits (milliseconds / 1000 : Nat) ++ '.' :: List.replicate (3 - fraction.length) '0' ++ fraction

def sortedMessage (count milliseconds : Nat) : Text :=
  "Sorted " ++ digits count ++ " lines in " ++ seconds milliseconds ++ " seconds."

def printLine (line : Text) : Program m Unit :=
  Host.put .output (line ++ ['\n'])

def clock : Program m Nat := do
  (Host.clock : StateT App m _)

/-- Sorts the lines of files, or of the standard input if there are none. -/
def sortLines (argv : List Text) : Program m Unit := do
  Program.setup argv
  let _ ← Program.collator
  let names := (← get).options.positional
  let lines ← readLines (if names.isEmpty then [inputName] else names)
  let start ← clock
  let result ← Program.sort (lines.map some)
  let stop ← clock
  Program.log (sortedMessage result.length (stop - start))
  result.forM fun line => printLine (line.getD [])

def symbol : Ordering → Text
  | .lt => ['<']
  | .eq => ['=']
  | .gt => ['>']

/-- Shows how the first text compares to the second. -/
def compareTexts (argv : List Text) : Program m Unit := do
  Program.setup argv
  match (← get).options.positional with
  | [a, b] => printLine (symbol (← Program.compare (some a) (some b)))
  | texts => throw (.stringCount texts.length)

/-- A weight, and the elements that have it. -/
def groupLine (g : Table.Group) : Text :=
  Text.padRight 12 (Text.join ['.'] (g.weight.toList.map digits)) ++ Text.join [' '] g.members

/-- Shows the groups of a weight table. -/
def showTable (argv : List Text) : Program m Unit := do
  Program.setup argv
  (← Program.tailoring).table.groups.forM fun g => printLine (groupLine g)

/-- Runs an action up to its first failure. The code is 0 if there is none, and 1 if the failure is
settled. -/
def guarded (body : Program m Unit) : Program m Int := do
  try
    body
    return 0
  catch e =>
    if ← Program.handle e then return 1 else throw e

/-- Closes the log whatever happens. A failure to close it takes the place of any other. -/
def closing {α : Type} (body : Program m α) : Program m α := do
  let result ← ExceptT.lift (ExceptT.run body)
  Program.close
  match result with
  | .ok a => return a
  | .error e => throw e

/-- One run of a program with its own options. -/
def run (description : Text) (body : List Text → Program m Unit) (argv : List Text) :
    Attempt m Int :=
  ExceptT.mk
    ((ExceptT.run (closing (guarded (body argv)))).run' (App.ofOptions (.standard description)))

def sort (argv : List Text) : Attempt m Int :=
  run "Sort lines of text by collation rules and print them to stdout." sortLines argv

def compare (argv : List Text) : Attempt m Int :=
  run "Compare two strings by collation rules. Prints <, = or >." compareTexts argv

def table (argv : List Text) : Attempt m Int :=
  run "Show the weight groups defined by a set of collation rules." showTable argv

def modes : List (Mode (List Text → Attempt m Int)) :=
  [⟨"sort", "Sort lines of text from files or stdin (default).", sort⟩,
    ⟨"compare", "Compare two strings and print <, = or >.", compare⟩,
    ⟨"table", "Show the weight groups defined by the rules.", table⟩]

def defaultMode : Text := "sort"

/-- Runs the program whose mode the first argument chooses, with the arguments after it. -/
def runMode (modes : List (Mode (List Text → Attempt m Int))) (default : Text) (argv : List Text) :
    Attempt m Int := do
  let (given, argv) := shiftArguments argv
  match Mode.choose modes default given with
  | .ok mode => mode.action argv
  | .error fault =>
    Host.put .messages (Mode.refusal modes fault)
    return Mode.refusalCode

def program (argv : List Text) : Attempt m Int :=
  runMode modes defaultMode argv

end Collation.Command
