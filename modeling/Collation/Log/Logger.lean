import Collation.Host.Basic

/-! Loggers, which write lines to streams and mark repeated messages. -/

namespace Collation

/-- What stands before each message. The formats of times are the usual one and those whose percent
signs are all doubled. One with a null character can stand before no message. -/
inductive Stamp where
  | none
  | time
  | fixed (t : Text)
  | invalid
  deriving DecidableEq, Repr

namespace Stamp

def timeFormat : Text := "[%b %d %Y %H:%M:%S]: "

/-- A doubled percent sign is one. -/
def unescape : Text → Text
  | '%' :: '%' :: rest => '%' :: unescape rest
  | c :: rest => c :: unescape rest
  | [] => []

def ofFormat : Option Text → Stamp
  | Option.none => none
  | some t =>
    if t = timeFormat then time
    else if t.contains '\x00' then invalid
    else fixed (unescape t)

end Stamp

/-- The streams of a logger, those among them that were opened for it, and the message to which a
repeat is compared. -/
structure Logger where
  streams : List Stream
  owned : List Stream
  stamp : Stamp
  repeatMark : Option Text
  last : Text

namespace Logger

def repeatSign : Text := "*"

def ofStreams (streams owned : List Stream) (stamp : Stamp) (repeatMark : Option Text) : Logger :=
  ⟨streams, owned, stamp, repeatMark, []⟩

/-- The message as it is written, in place of a repeat the mark, and the message to compare the next
one to. -/
def shorten (mark : Option Text) (last message : Text) : Text × Text :=
  match mark with
  | none => (message, last)
  | some m => if message = last then (m, last) else (message, message)

variable {m : Type → Type} [Monad m] [Host m]

def stampText : Stamp → Attempt m Text
  | .none => return []
  | .time => (Host.stamp : m _)
  | .fixed t => return t
  | .invalid => throw .nullFormat

/-- Failures of the system and of values keep a line from one stream only. -/
def passesOver (e : Failure) : Bool :=
  e.family.isA .system || e.family.isA .value

/-- Offers a line to every stream. One that does not take it keeps it from no other. -/
def offer (line : Text) : List Stream → Attempt m Unit
  | [] => return
  | s :: rest => do
    try Host.put s line
    catch e => if !passesOver e then throw e
    offer line rest

def log (l : Logger) (message : Text) : Attempt m Logger := do
  let (shown, last) := shorten l.repeatMark l.last message
  let stamp ← stampText l.stamp
  offer (stamp ++ shown ++ ['\n']) l.streams
  return { l with last := last }

/-- Closes the streams that were opened for the logger, up to the first that does not close well. If
there is one, the logger keeps them all. -/
def close (l : Logger) : Attempt m Logger := do
  l.owned.forM Host.shut
  return { l with owned := [] }

def openFiles : List Text → Attempt m (List Stream)
  | [] => return []
  | path :: rest => do
    if path.isEmpty then openFiles rest
    else
      let s ← Host.attemptFile path (Host.openEnd path : m _)
      return s :: (← openFiles rest)

/-- Opens files to append to. Standard streams come after them. -/
def openLogger (paths : List Text) (toOutput toMessages : Bool) (stamp : Stamp)
    (repeatMark : Option Text) : Attempt m Logger := do
  let files ← openFiles paths
  let standard := (if toOutput then [Stream.output] else []) ++
    (if toMessages then [Stream.messages] else [])
  return ofStreams (files ++ standard) files stamp repeatMark

end Logger

end Collation
