import Collation.Config.Fault
import Collation.Unicode.LowerCase

/-! The format of configuration files: sections of options, comment lines, and values that go on
over indented lines. -/

namespace Collation.Config

/-- Options by name, in the order of their first lines, with the lines of their values. -/
abbrev Options := List (Text × List Text)

structure Section where
  name : Text
  options : Options
  deriving DecidableEq, Repr

/-- The options that stand in every section, and the sections in order. -/
structure Layout where
  defaults : Options
  sections : List Section
  deriving DecidableEq, Repr

/-- The section that a line belongs to. -/
inductive Place where
  | nowhere
  | defaults
  | named (name : Text)
  deriving DecidableEq, Repr

/-- What is known between two lines. Lines that are bad but do not stop the reading are kept, the
last one first. -/
structure Reading where
  layout : Layout
  place : Place
  option : Option Text
  indent : Nat
  badLines : List (Nat × Text)

def Reading.start : Reading :=
  ⟨⟨[], []⟩, .nowhere, none, 0, []⟩

def defaultName : Text := "DEFAULT"

def Reading.options (r : Reading) : Options :=
  match r.place with
  | .nowhere => []
  | .defaults => r.layout.defaults
  | .named name => ((r.layout.sections.find? (·.name = name)).map Section.options).getD []

def Reading.changeOptions (r : Reading) (f : Options → Options) : Reading :=
  match r.place with
  | .nowhere => r
  | .defaults => { r with layout := { r.layout with defaults := f r.layout.defaults } }
  | .named name =>
    let change (s : Section) : Section := if s.name = name then ⟨name, f s.options⟩ else s
    { r with layout := { r.layout with sections := r.layout.sections.map change } }

/-- The option that a line can go on with, if one is open. -/
def Reading.openOption? (r : Reading) : Option Text :=
  if r.place = .nowhere then none else r.option.filter (!·.isEmpty)

def Reading.addLine (r : Reading) (option line : Text) : Reading :=
  r.changeOptions fun os => os.map fun o => if o.1 = option then (o.1, o.2 ++ [line]) else o

/-- Whatever stands between the first bracket and the last closing one. -/
def header? (line : Text) : Option Text :=
  match line with
  | '[' :: rest =>
    let name := ((rest.reverse.dropWhile (· ≠ ']')).drop 1).reverse
    if name.isEmpty then none else some name
  | _ => none

def isDelimiter (c : Char) : Bool :=
  c = '=' || c = ':'

/-- The name before the first delimiter, and the value after it. -/
def option? (line : Text) : Option (Text × Text) :=
  match line.dropWhile (!isDelimiter ·) with
  | [] => none
  | _ :: value => some (Text.stripRight (line.takeWhile (!isDelimiter ·)), Text.strip value)

def isComment (line : Text) : Bool :=
  line.head? = some '#' || line.head? = some ';'

def Reading.enter (r : Reading) (number : Nat) (name : Text) : Except Fault Reading :=
  if r.layout.sections.any (·.name = name) then .error (.repeatedSection name number)
  else if name = defaultName then .ok { r with place := .defaults, option := none }
  else
    let sections := r.layout.sections ++ [⟨name, []⟩]
    .ok { r with
      layout := { r.layout with sections := sections }, place := .named name, option := none }

def Reading.placeName (r : Reading) : Text :=
  match r.place with
  | .named name => name
  | _ => defaultName

/-- An option without a name is a bad line, but it counts as an option all the same. -/
def Reading.setOption (r : Reading) (number : Nat) (line name value : Text) :
    Except Fault Reading :=
  let badLines := if name.isEmpty then (number, line) :: r.badLines else r.badLines
  let name := Unicode.lowerCase name
  if r.options.any (·.1 = name) then .error (.repeatedOption r.placeName name number)
  else
    let r := r.changeOptions (· ++ [(name, [value])])
    .ok { r with option := some name, badLines := badLines }

/-- Reads one line. A line that is indented deeper than the one that opened an option belongs to the
value of that option, and so does a blank line. -/
def Reading.line (r : Reading) (number : Nat) (line : Text) : Except Fault Reading :=
  let content := Text.strip line
  if isComment content then .ok r
  else if content.isEmpty then
    match r.openOption? with
    | some option => .ok (r.addLine option [])
    | none => .ok r
  else
    let indent := (line.takeWhile isSpace).length
    match if r.indent < indent then r.openOption? else none with
    | some option => .ok (r.addLine option content)
    | none =>
      let r := { r with indent := indent }
      match header? content with
      | some name => r.enter number name
      | none =>
        if r.place = .nowhere then .error (.noSection number line)
        else match option? content with
          | some (name, value) => r.setOption number line name value
          | none => .ok { r with badLines := (number, line) :: r.badLines }

def Reading.lines (r : Reading) (number : Nat) : List Text → Except Fault Reading
  | [] => .ok r
  | line :: rest => do lines (← r.line number line) (number + 1) rest

def Reading.finish (r : Reading) : Except Fault Layout :=
  if r.badLines.isEmpty then .ok r.layout else .error (.badLines r.badLines.reverse)

/-- The lines of a file with the line feeds that end them. -/
def fileLines : Text → List Text
  | [] => []
  | c :: rest =>
    if c = '\n' then ['\n'] :: fileLines rest
    else match fileLines rest with
      | [] => [[c]]
      | line :: more => (c :: line) :: more

def layout (lines : List Text) : Except Fault Layout := do
  (← Reading.start.lines 1 lines).finish

/-- Lines of a value are joined, and white space at the end is dropped. -/
def valueText (lines : List Text) : Text :=
  Text.stripRight (Text.join ['\n'] lines)

/-- The options of a section with those of the defaults that it does not set itself. -/
def Layout.settings (l : Layout) (s : Section) : List (Text × Text) :=
  let inherited := l.defaults.filter fun d => !s.options.any (·.1 = d.1)
  (s.options ++ inherited).map fun o => (o.1, valueText o.2)

end Collation.Config
