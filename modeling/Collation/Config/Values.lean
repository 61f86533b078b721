import Collation.Config.Format
import Collation.Failure.Basic
import Collation.Literal.Setting

/-! The values of configuration files. -/

namespace Collation.Config

/-- Values by name, in order. -/
abbrev Values := List (Text × Value)

namespace Values

def get? (vs : Values) (name : Text) : Option Value :=
  vs.lookup name

/-- A name that is there keeps its place. -/
def put (vs : Values) (name : Text) (v : Value) : Values :=
  if vs.any (·.1 = name) then vs.map fun p => if p.1 = name then (name, v) else p
  else vs ++ [(name, v)]

def putAll (vs more : Values) : Values :=
  more.foldl (fun vs p => vs.put p.1 p.2) vs

end Values

/-- What a setting stands for. -/
def evaluate (setting : Text) : Except Failure Value :=
  match Literal.setting setting with
  | .ok v => .ok v
  | .error .notFixed => .error .type
  | .error .tooNested => .error .tooNested
  | .error .tooHigh => .error .tooHigh
  | .error .tooLarge => .error .tooLarge
  | .error .surrogates => .error .surrogates

/-- The values of all sections. -/
def Layout.values (l : Layout) : Except Failure (List (Text × Values)) :=
  l.sections.mapM fun s => do
    return (s.name, ← (l.settings s).mapM fun (name, t) => do return (name, ← evaluate t))

/-- The lines of a file that are read before its bytes end or fail, and the failure. A last
character that is not complete fails after the lines before it. -/
def linesOfBytes (bs : List UInt8) : Except Utf8.Fault (List Text × Option Utf8.Fault) :=
  let (whole, rest) := Utf8.splitIncomplete bs
  match Utf8.decode whole with
  | .error e => .error e
  | .ok t =>
    let lines := fileLines (Text.unifyNewlines t)
    match Utf8.decode rest with
    | .ok _ => .ok (lines, none)
    | .error e => .ok (lines.filter (·.getLast? = some '\n'), some e)

/-- The values of the sections of a file. -/
def read (path : Text) (bs : List UInt8) : Except Failure (List (Text × Values)) := do
  let (lines, fault) ← (linesOfBytes bs).mapError .encoding
  let r ← (Reading.start.lines 1 lines).mapError (.config path)
  match fault with
  | some e => .error (.encoding e)
  | none => (← r.finish.mapError (.config path)).values

end Collation.Config
