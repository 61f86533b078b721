import Collation.Path

/-! File trees as values: directories and files by their paths from the root. -/

namespace Collation

/-- Why a file cannot be reached. -/
inductive FileCause where
  | notFound
  | alreadyExists
  | notDirectory
  | isDirectory
  | nullCharacter
  | longName
  | other (code : Nat) (reason : Text)
  deriving DecidableEq, Repr

namespace FileTree

/-- The names on the way from the root. -/
abbrev Route := List Text

inductive Node where
  | directory
  | file (content : List UInt8)
  deriving DecidableEq, Repr

end FileTree

open FileTree

/-- What stands at each route. The root itself is a directory that is not listed. -/
structure FileTree where
  nodes : List (Route × Node)

namespace FileTree

variable (t : FileTree)

def node? (route : Route) : Option Node :=
  if route.isEmpty then some .directory
  else (t.nodes.find? (·.1 = route)).map Prod.snd

def put (route : Route) (n : Node) : FileTree :=
  if (t.node? route).isSome then
    ⟨t.nodes.map fun entry => if entry.1 = route then (route, n) else entry⟩
  else ⟨t.nodes ++ [(route, n)]⟩

/-- A file or a directory with all directories on the way to it. -/
def putDeep (route : Route) (n : Node) : FileTree :=
  let parents := ((List.range route.length).map fun k => route.take k).filter (!·.isEmpty)
  let addDirectory (t : FileTree) (r : Route) : FileTree :=
    if (t.node? r).isSome then t else t.put r .directory
  (parents.foldl addDirectory t).put route n

/-- Whether a text has more bytes than a limit. -/
def isLonger (limit : Nat) (name : Text) : Bool :=
  limit < name.foldl (fun n c => n + c.utf8Size) 0

/-- The most bytes that a name can have. -/
def nameLimit : Nat := 255

/-- The most bytes that a path can have. -/
def pathLimit : Nat := 4095

/-- What is wrong with a path wherever it leads. -/
def checkPath (path : Text) : Except FileCause Unit :=
  if path.isEmpty then .error .notFound
  else if path.contains '\x00' then .error .nullCharacter
  else if isLonger pathLimit path then .error .longName
  else .ok ()

/-- Goes from a route by one name. Only a directory can be left. -/
def step (route : Route) (name : Text) : Except FileCause Route :=
  match t.node? route with
  | none => .error .notFound
  | some (.file _) => .error .notDirectory
  | some .directory =>
    if name = [] || name = ['.'] then .ok route
    else if name = ['.', '.'] then .ok route.dropLast
    else if isLonger nameLimit name then .error .longName
    else .ok (route ++ [name])

def walk (route : Route) (names : List Text) : Except FileCause Route :=
  names.foldlM t.step route

/-- The route of a path, of which all but the last name have to exist. -/
def route (current : Route) (path : Text) : Except FileCause Route := do
  checkPath path
  t.walk (if Path.isAbsolute path then [] else current) (Text.splitAt '/' path)

def read (current : Route) (path : Text) : Except FileCause (List UInt8) := do
  match t.node? (← t.route current path) with
  | none => .error .notFound
  | some .directory => .error .isDirectory
  | some (.file content) => .ok content

/-- Finds or makes a file to append to. A slash at the end asks for a directory, whatever there is
of the last name. -/
def openEnd (current : Route) (path : Text) : Except FileCause (Route × FileTree) := do
  checkPath path
  if path.getLast? = some '/' then
    let _ ← t.route current (Path.join (Path.parent (Path.trimSlashes path)) ['.'])
    .error .isDirectory
  else
    let r ← t.route current path
    match t.node? r with
    | some .directory => .error .isDirectory
    | some (.file _) => .ok (r, t)
    | none => .ok (r, t.put r (.file []))

def append (route : Route) (more : List UInt8) : FileTree :=
  match t.node? route with
  | some (.file content) => t.put route (.file (content ++ more))
  | _ => t

def makeDirectory (current : Route) (path : Text) : Except FileCause FileTree := do
  checkPath path
  let trimmed := Path.trimSlashes path
  if trimmed.isEmpty then .error .alreadyExists
  else
    let r ← t.route current trimmed
    match t.node? r with
    | some _ => .error .alreadyExists
    | none => .ok (t.put r .directory)

def lookUp (current : Route) (path : Text) : Option Node :=
  match t.route current path with
  | .ok r => t.node? r
  | .error _ => none

end FileTree

end Collation
