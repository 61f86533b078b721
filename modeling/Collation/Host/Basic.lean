import Collation.Failure.Basic

/-! What a run needs of the machine that it happens on. -/

namespace Collation

/-- The streams that a run writes to: results, messages, and files that it has opened. -/
inductive Stream where
  | output
  | messages
  | file (number : Nat)
  deriving DecidableEq, Repr

/-- Files, streams and the clock. Writing and closing tell why they did not end well. -/
class Host (m : Type → Type) where
  read : Text → m (Except FileCause (List UInt8))
  openEnd : Text → m (Except FileCause Stream)
  makeDirectory : Text → m (Except FileCause Unit)
  isDirectory : Text → m Bool
  isThere : Text → m Bool
  write : Stream → Text → m (Except StreamCause Unit)
  /-- Passes on what the stream still holds. The stream is closed even if this fails. -/
  close : Stream → m (Except StreamCause Unit)
  input : m (List UInt8)
  /-- The time of day in brackets, with a colon and a blank. -/
  stamp : m Text
  /-- Milliseconds since some moment. -/
  clock : m Nat
  home : m Text
  package : m Text

/-- An action that can fail. -/
abbrev Attempt (m : Type → Type) := ExceptT Failure m

namespace Host

variable {m : Type → Type} [Monad m] [Host m]

def attemptFile {α : Type} (path : Text) (x : m (Except FileCause α)) : Attempt m α := do
  match ← (x : m _) with
  | .ok a => return a
  | .error cause => throw (.file cause path)

def attemptText (x : Except Utf8.Fault Text) : Attempt m Text :=
  match x with
  | .ok t => return Text.unifyNewlines t
  | .error e => throw (.encoding e)

/-- The text of a file, with every line end as a line feed. -/
def readText (path : Text) : Attempt m Text := do
  attemptText (Utf8.decode (← attemptFile path (Host.read path)))

/-- All that is left of the standard input. -/
def readInput : Attempt m Text := do
  attemptText (Utf8.decode (← (Host.input : m _)))

def attemptStream (x : m (Except StreamCause Unit)) : Attempt m Unit := do
  match ← (x : m _) with
  | .ok _ => return
  | .error cause => throw (.stream cause)

def put (stream : Stream) (t : Text) : Attempt m Unit :=
  attemptStream (Host.write stream t)

def shut (stream : Stream) : Attempt m Unit :=
  attemptStream (Host.close stream)

/-- A directory that another run has made in the meantime is as good. -/
def makeLast (path : Text) : Attempt m Unit := do
  match ← (Host.makeDirectory path : m _) with
  | .ok _ => return
  | .error cause => if !(← (Host.isDirectory path : m _)) then throw (.file cause path)

/-- Makes a directory and those on the way to it. `fuel` is at least the length of the path. -/
def makeDirectoriesWithin (fuel : Nat) (path : Text) : Attempt m Unit :=
  match fuel with
  | 0 => return
  | fuel + 1 => do
    let trimmed := if (Path.lastName path).isEmpty then Path.parent path else path
    let parent := Path.parent trimmed
    let name := Path.lastName trimmed
    if parent.isEmpty || name.isEmpty then makeLast path
    else if ← (Host.isThere parent : m _) then makeLast path
    else
      try makeDirectoriesWithin fuel parent
      catch e => if e.family ≠ .fileExists then throw e
      if name ≠ ['.'] then makeLast path

def makeDirectories (path : Text) : Attempt m Unit :=
  makeDirectoriesWithin (path.length + 1) path

/-- Makes the directories on the way to a file. -/
def makeWay (path : Text) : Attempt m Unit :=
  let directory := Path.parent path
  makeDirectories (if directory.isEmpty then ['.'] else directory)

end Host

/-- An action that carries a state along runs on the same machine. -/
instance {σ : Type} {m : Type → Type} [Monad m] [Host m] : Host (StateT σ m) where
  read path := liftM (Host.read path : m _)
  openEnd path := liftM (Host.openEnd path : m _)
  makeDirectory path := liftM (Host.makeDirectory path : m _)
  isDirectory path := liftM (Host.isDirectory path : m _)
  isThere path := liftM (Host.isThere path : m _)
  write stream t := liftM (Host.write stream t : m _)
  close stream := liftM (Host.close stream : m _)
  input := liftM (Host.input : m _)
  stamp := liftM (Host.stamp : m _)
  clock := liftM (Host.clock : m _)
  home := liftM (Host.home : m _)
  package := liftM (Host.package : m _)

end Collation
