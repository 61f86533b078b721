import Collation.Command
import Collation.Rule.French
import Std.Time.Format

/-! The program on the machine at hand. -/

namespace Collation

/-- An action with the files that it has opened, by number. A file that is closed is gone. -/
abbrev Run := StateT (Array (Option IO.FS.Handle)) IO

namespace Run

def causeOf : IO.Error → FileCause
  | .noFileOrDirectory _ _ _ | .noSuchThing _ _ _ => .notFound
  | .alreadyExists _ _ _ => .alreadyExists
  | .inappropriateType _ code _ => if code = 21 then .isDirectory else .notDirectory
  | .invalidArgument _ 36 _ => .longName
  | .permissionDenied _ code reason => .other code.toNat reason.toList
  | e => .other 5 e.toString.toList

/-- The code of a failure of the system, and its reason. -/
def streamCauseOf : IO.Error → StreamCause
  | .alreadyExists _ code reason | .interrupted _ code reason | .invalidArgument _ code reason
  | .noFileOrDirectory _ code reason | .noSuchThing _ code reason
  | .permissionDenied _ code reason | .resourceExhausted _ code reason
  | .inappropriateType _ code reason | .otherError code reason | .resourceBusy code reason
  | .resourceVanished code reason | .unsupportedOperation code reason
  | .hardwareFault code reason | .unsatisfiedConstraints code reason
  | .illegalOperation code reason | .protocolError code reason | .timeExpired code reason =>
    .system code.toNat reason.toList
  | e => .system 5 e.toString.toList

def triedStream (x : IO Unit) : Run (Except StreamCause Unit) := do
  try return .ok (← x)
  catch e => return .error (streamCauseOf e)

/-- An action on a path, with the cause if it fails. -/
def tried {α : Type} (path : Text) (x : String → IO α) : Run (Except FileCause α) := do
  if path.contains '\x00' then return .error .nullCharacter
  if path.isEmpty then return .error .notFound
  try return .ok (← x (String.ofList path))
  catch e => return .error (causeOf e)

def packagePath : Run Text := do
  return (← IO.appDir).toString.toList

/-- The rule file for French is a part of the program. -/
def isFrenchFile (path : Text) : Run Bool := do
  return Path.normal path = Path.normal ((← packagePath) ++ "/assets/french.rules")

def read (path : Text) : Run (Except FileCause (List UInt8)) := do
  if ← isFrenchFile path then return .ok (Utf8.encode Rule.frenchFile)
  match ← tried path fun p => IO.FS.readBinFile p with
  | .ok bytes => return .ok bytes.toList
  | .error cause => return .error cause

def openEnd (path : Text) : Run (Except FileCause Stream) := do
  match ← tried path fun p => IO.FS.Handle.mk p .append with
  | .error cause => return .error cause
  | .ok handle =>
    let number := (← get).size
    modify (·.push (some handle))
    return .ok (.file number)

/-- Only a directory can be opened and yet not be read as a file. -/
def isDirectory (path : Text) : Run Bool := do
  match ← read path with
  | .error .isDirectory => return true
  | _ => return false

def isThere (path : Text) : Run Bool := do
  match ← read path with
  | .ok _ | .error .isDirectory | .error (.other _ _) => return true
  | _ => return false

/-- Results and files are passed on at once. -/
def write (stream : Stream) (t : Text) : Run (Except StreamCause Unit) := do
  let s := String.ofList t
  match stream with
  | .output => triedStream do
    (← IO.getStdout).putStr s
    (← IO.getStdout).flush
  | .messages => triedStream do (← IO.getStderr).putStr s
  | .file number =>
    match (← get)[number]?.join with
    | none => return .error .closed
    | some handle => triedStream do
      handle.putStr s
      handle.flush

def close (stream : Stream) : Run (Except StreamCause Unit) := do
  match stream with
  | .output => triedStream do (← IO.getStdout).flush
  | .messages => triedStream do (← IO.getStderr).flush
  | .file number =>
    match (← get)[number]?.join with
    | none => return .ok ()
    | some handle =>
      modify (·.setIfInBounds number none)
      triedStream handle.flush

/-- All that a stream has left, after what was read before. -/
partial def readAll (stream : IO.FS.Stream) (before : ByteArray) : IO ByteArray := do
  let bytes ← stream.read 65536
  if bytes.isEmpty then return before else readAll stream (before ++ bytes)

instance : Host Run where
  read := read
  openEnd := openEnd
  makeDirectory path := tried path fun p => IO.FS.createDir p
  isDirectory := isDirectory
  isThere := isThere
  write := write
  close := close
  input := do return (← readAll (← IO.getStdin) .empty).toList
  stamp := do
    let now ← Std.Time.PlainDateTime.now
    return ("[" ++ now.format "MMM dd uuuu HH:mm:ss" ++ "]: ").toList
  clock := IO.monoMsNow
  home := do return ((← IO.getEnv "HOME").getD "").toList
  package := packagePath

/-- The code with which the program ends. A failure that nothing has settled is reported. -/
def exitCode (result : Except Failure Int) : IO UInt32 := do
  match result with
  | .ok code => return (code % 256).toNat.toUInt32
  | .error .helpShown => return 0
  | .error e =>
    (← IO.getStderr).putStr (String.ofList (e.report ++ ['\n']))
    return 1

end Run

end Collation

def main (arguments : List String) : IO UInt32 := do
  let script := (← IO.appPath).toString
  let argv : List Collation.Text := (script :: arguments).map String.toList
  let result ← (Collation.Command.program argv : Collation.Attempt Collation.Run Int).run.run' #[]
  Collation.Run.exitCode result
