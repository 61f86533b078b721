import Collation.Collator
import Collation.Failure.Handler
import Collation.Log.Logger
import Collation.Option.Standard
import Collation.Rule.File

/-! Applications: the options of a run and the parts that are made from them, each when it is first
needed and then kept. -/

namespace Collation

structure App where
  options : OptionStore
  logger : Option Logger
  handlesFailures : Bool
  rules : Option Value
  tailoring : Option Tailoring
  collator : Option Collator

namespace App

def ofOptions (options : OptionStore) : App :=
  ⟨options, none, false, none, none, none⟩

/-- Failures that a user can cause are settled by their message. Others are reported only. -/
def handler : Handler :=
  .first [.message [.collation, .system, .value], .report]

/-- White space in ASCII, without the separators of information. -/
def isSpaceByte (b : UInt8) : Bool :=
  b = 0x20 || (0x09 ≤ b && b ≤ 0x0D)

/-- The tailoring of a rule text. A value of another kind fails where it is used as a text. -/
def tailoringOf (form : Option Form) : Value → Except Failure Tailoring
  | .text t => (Tailoring.ofRules form t).mapError .rule
  | .bytes bs =>
    .error (if bs.all isSpaceByte then .rule ⟨.empty, 0⟩ else .type)
  | v => .error (.noAttribute v.kindName "strip")

def loadedMessage (t : Table) : Text :=
  "Loaded " ++ digits t.size ++ " collation elements in " ++ digits (t.maxPrimary + 1) ++
    " primary groups."

end App

/-- An action of an application. What was made before a failure is kept. -/
abbrev Program (m : Type → Type) := Attempt (StateT App m)

namespace Program

variable {m : Type → Type} [Monad m] [Host m]

def ofExcept {α : Type} : Except Failure α → Program m α
  | .ok a => return a
  | .error e => throw e

/-- Reads the command line, and then the configuration file. A request for help is met at once. -/
def setup (argv : List Text) : Program m Unit := do
  match (← get).options.parse argv with
  | .error (.failure e) => throw e
  | .error (.help text) =>
    Host.put .output text
    throw .helpShown
  | .ok options =>
    modify ({ · with options := options })
    let (options, _) ← options.loadConfig
    modify ({ · with options := options })

def logger : Program m Logger := do
  match (← get).logger with
  | some l => return l
  | none =>
    let path ← (← get).options.logPath
    let l ← Logger.openLogger [path] false true .time (some Logger.repeatSign)
    modify ({ · with logger := some l })
    return l

def log (message : Text) : Program m Unit := do
  let l ← logger
  let l ← l.log message
  modify ({ · with logger := some l })

/-- Closes the log file if it was ever opened. -/
def close : Program m Unit := do
  match (← get).logger with
  | none => return
  | some l =>
    let l ← l.close
    modify ({ · with logger := some l })

/-- Whether a failure is settled by the application. -/
def handle (e : Failure) : Program m Bool := do
  modify ({ · with handlesFailures := true })
  App.handler.handle log ⟨e.family, e, true⟩

def ruleText : Program m Value := do
  match (← get).rules with
  | some v => return v
  | none =>
    let options := (← get).options
    let given ← ofExcept (options.get "rules")
    let v ←
      if given.isTruthy then pure given
      else do
        let content ← Host.readText (← options.rulesPath)
        pure (.text (Rule.decodeFile Rule.commentSign content))
    modify ({ · with rules := some v })
    return v

def tailoring : Program m Tailoring := do
  match (← get).tailoring with
  | some t => return t
  | none =>
    let rules ← ruleText
    let form ← ofExcept (← get).options.form
    let t ← ofExcept (App.tailoringOf form rules)
    log (App.loadedMessage t.table)
    modify ({ · with tailoring := some t })
    return t

def collator : Program m Collator := do
  match (← get).collator with
  | some c => return c
  | none =>
    let t ← tailoring
    let options := (← get).options
    let s ← ofExcept options.strength
    let c : Collator := ⟨t, s, ← ofExcept (options.get "processes")⟩
    modify ({ · with collator := some c })
    return c

def compare (a b : Word) : Program m Ordering := do
  return (← collator).compare a b

/-- Sorts words, with a notice if a pool of processes has failed. -/
def sort (ws : List Word) : Program m (List Word) := do
  let (result, notice) := (← collator).sort ws
  if notice then Host.put .messages Workers.notice
  ofExcept result

end Program

end Collation
