import Collation.Host.Basic

/-! A machine as a value: a file tree, streams, and a clock that stands still. -/

namespace Collation

/-- Where what is written to a stream goes. -/
inductive Sink where
  | memory
  | tree (route : FileTree.Route)
  deriving DecidableEq, Repr

/-- How a write goes wrong: the stream takes the first characters only, or it takes the text and
cannot pass it on. -/
inductive StreamFault where
  | onWrite (count : Nat) (cause : StreamCause)
  | onFlush (cause : StreamCause)
  deriving DecidableEq, Repr

namespace StreamFault

def cause : StreamFault → StreamCause
  | onWrite _ cause | onFlush cause => cause

/-- What is taken of a text. -/
def part : StreamFault → Text → Text
  | onWrite count _, t => t.take count
  | onFlush _, t => t

end StreamFault

/-- An open or closed stream: how many writes were tried, which of them fail, what it took, and what
it still holds of that. -/
structure OpenStream where
  sink : Sink
  isClosed : Bool
  tries : Nat
  faults : Nat → Option StreamFault
  taken : Text
  held : Text

namespace OpenStream

def new (sink : Sink) (faults : Nat → Option StreamFault) : OpenStream :=
  ⟨sink, false, 0, faults, [], []⟩

/-- A stream that takes all and shows it to the caller only. -/
def inMemory : OpenStream :=
  new .memory fun _ => none

/-- What is wrong with the next write. -/
def fault? (o : OpenStream) : Option StreamFault :=
  if o.isClosed then some (.onWrite 0 .closed) else o.faults o.tries

def answer (o : OpenStream) : Except StreamCause Unit :=
  match o.fault? with
  | none => .ok ()
  | some f => .error f.cause

def write (o : OpenStream) (t : Text) : OpenStream :=
  match o.fault? with
  | none => { o with tries := o.tries + 1, taken := o.taken ++ t, held := [] }
  | some f =>
    { o with tries := o.tries + 1, taken := o.taken ++ f.part t, held := o.held ++ f.part t }

/-- What goes on to the sink when a text is written. -/
def passed (o : OpenStream) (t : Text) : Text :=
  if o.fault?.isNone then o.held ++ t else []

/-- What goes wrong when the stream is closed. What it holds is passed on then, and after a failure
once more. -/
def closingCause? (o : OpenStream) : Option StreamCause :=
  if o.isClosed || o.held.isEmpty then none
  else (o.faults o.tries).map fun f => ((o.faults (o.tries + 1)).getD f).cause

def closingAnswer (o : OpenStream) : Except StreamCause Unit :=
  match o.closingCause? with
  | none => .ok ()
  | some cause => .error cause

def close (o : OpenStream) : OpenStream :=
  { o with isClosed := true, held := [] }

/-- What goes on to the sink when the stream is closed. -/
def passedAtEnd (o : OpenStream) : Text :=
  if o.isClosed || (o.faults o.tries).isSome && (o.faults (o.tries + 1)).isSome then []
  else o.held

end OpenStream

structure Machine where
  tree : FileTree
  /-- What goes wrong with the writes to a file that is opened. -/
  devices : FileTree.Route → Nat → Option StreamFault
  current : FileTree.Route
  homePath : Text
  packagePath : Text
  unread : List UInt8
  out : OpenStream
  err : OpenStream
  streams : List OpenStream
  stampText : Text

namespace Machine

/-- A machine whose streams take all that they are given. -/
def ofTree (tree : FileTree) (homePath packagePath : Text) (unread : List UInt8)
    (stampText : Text) : Machine :=
  ⟨tree, fun _ _ => none, [], homePath, packagePath, unread, .inMemory, .inMemory, [], stampText⟩

/-- The results that were shown. -/
def output (s : Machine) : Text :=
  s.out.taken

/-- The messages that were shown. -/
def messages (s : Machine) : Text :=
  s.err.taken

def stream? (s : Machine) : Stream → Option OpenStream
  | .output => some s.out
  | .messages => some s.err
  | .file number => s.streams[number]?

def openEnd (path : Text) (s : Machine) : Except FileCause Stream × Machine :=
  match s.tree.openEnd s.current path with
  | .error cause => (.error cause, s)
  | .ok (route, tree) =>
    (.ok (.file s.streams.length),
      { s with
        tree := tree
        streams := s.streams ++ [.new (.tree route) (s.devices route)] })

def makeDirectory (path : Text) (s : Machine) : Except FileCause Unit × Machine :=
  match s.tree.makeDirectory s.current path with
  | .error cause => (.error cause, s)
  | .ok tree => (.ok (), { s with tree := tree })

/-- The machine after a text has gone on to a sink. -/
def pass (sink : Sink) (t : Text) (s : Machine) : Machine :=
  match sink with
  | .memory => s
  | .tree route => if t.isEmpty then s else { s with tree := s.tree.append route (Utf8.encode t) }

/-- A file that was never opened takes nothing. -/
def writeFile (number : Nat) (t : Text) (s : Machine) : Except StreamCause Unit × Machine :=
  match s.streams[number]? with
  | none => (.error .closed, s)
  | some o =>
    (o.answer, { s with streams := s.streams.set number (o.write t) }.pass o.sink (o.passed t))

/-- The standard streams end outside the tree. -/
def write (stream : Stream) (t : Text) (s : Machine) : Except StreamCause Unit × Machine :=
  match stream with
  | .output => (s.out.answer, { s with out := s.out.write t })
  | .messages => (s.err.answer, { s with err := s.err.write t })
  | .file number => writeFile number t s

def closeFile (number : Nat) (s : Machine) : Except StreamCause Unit × Machine :=
  match s.streams[number]? with
  | none => (.ok (), s)
  | some o =>
    (o.closingAnswer,
      { s with streams := s.streams.set number o.close }.pass o.sink o.passedAtEnd)

def close (stream : Stream) (s : Machine) : Except StreamCause Unit × Machine :=
  match stream with
  | .output => (s.out.closingAnswer, { s with out := s.out.close })
  | .messages => (s.err.closingAnswer, { s with err := s.err.close })
  | .file number => closeFile number s

instance {m : Type → Type} [Monad m] : Host (StateT Machine m) where
  read path := modifyGet fun s => (s.tree.read s.current path, s)
  openEnd path := modifyGet (openEnd path)
  makeDirectory path := modifyGet (makeDirectory path)
  isDirectory path := modifyGet fun s => (s.tree.lookUp s.current path == some .directory, s)
  isThere path := modifyGet fun s => ((s.tree.lookUp s.current path).isSome, s)
  write stream t := modifyGet (write stream t)
  close stream := modifyGet (close stream)
  input := modifyGet fun s => (s.unread, { s with unread := [] })
  stamp := modifyGet fun s => (s.stampText, s)
  clock := modifyGet fun s => (0, s)
  home := modifyGet fun s => (s.homePath, s)
  package := modifyGet fun s => (s.packagePath, s)

end Machine

end Collation
