import Collation.Failure.Basic

/-! Handlers of failures, which log what they are given and tell whether that settles it. -/

namespace Collation

/-- A failure on its way out: the family under which it is handed on, and whether it was raised
where it is handled, so that a report tells of the way. -/
structure Raised where
  family : Family
  failure : Failure
  isTraced : Bool

inductive Handler where
  /-- Settles failures of the given families by logging their message. -/
  | message (families : List Family)
  /-- Logs a report of every failure and settles none. -/
  | report
  /-- Fails on every failure. -/
  | undefined
  /-- Asks handlers in turn until one settles the failure. -/
  | first (handlers : List Handler)

namespace Handler

def Raised.reportText (r : Raised) : Text :=
  Text.stripRight
    ((if r.isTraced then "Traceback (most recent call last):\n".toList else []) ++ r.failure.report)

variable {m : Type → Type} [Monad m]

mutual

/-- Whether the failure is settled. Logging may fail in its turn. -/
def handle (log : Text → ExceptT Failure m Unit) (r : Raised) : Handler → ExceptT Failure m Bool
  | .message families =>
    if families.any r.family.isA then do
      let some t := r.failure.message? | throw .type
      log (r.family.label ++ ": " ++ t)
      return true
    else return false
  | .report => do
    log (Raised.reportText r)
    return false
  | .undefined => throw .notImplemented
  | .first handlers => handleFirst log r handlers

def handleFirst (log : Text → ExceptT Failure m Unit) (r : Raised) :
    List Handler → ExceptT Failure m Bool
  | [] => return false
  | h :: rest => do
    if ← handle log r h then return true else handleFirst log r rest

end

/-- Adds a handler after those that are asked before. -/
def append : Handler → Handler → Handler
  | .first handlers, h => .first (handlers ++ [h])
  | g, h => .first [g, h]

end Handler

end Collation
