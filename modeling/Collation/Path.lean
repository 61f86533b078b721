import Collation.Text

/-! Paths as texts, with a slash between names. -/

namespace Collation.Path

def isAbsolute (path : Text) : Bool :=
  path.head? = some '/'

/-- An absolute second path replaces the first one. -/
def join (base path : Text) : Text :=
  if isAbsolute path then path
  else if base.isEmpty || base.getLast? = some '/' then base ++ path
  else base ++ '/' :: path

def trimSlashes (path : Text) : Text :=
  (path.reverse.dropWhile (· = '/')).reverse

/-- The text up to and with the last slash. -/
def upToSlash (path : Text) : Text :=
  (path.reverse.dropWhile (· ≠ '/')).reverse

/-- The text after the last slash. -/
def lastName (path : Text) : Text :=
  (path.reverse.takeWhile (· ≠ '/')).reverse

/-- The path before the last name, without slashes at its end unless it has nothing else. -/
def parent (path : Text) : Text :=
  let head := upToSlash path
  if head.all (· = '/') then head else trimSlashes head

/-- Takes a name into a normal path that is read backwards. Two dots remove the name before them, if
there is one to remove. -/
def stepNormal (rooted : Bool) (names : List Text) (name : Text) : List Text :=
  if name = [] || name = ['.'] then names
  else if name ≠ ['.', '.'] then name :: names
  else match names with
    | [] => if rooted then [] else [name]
    | last :: rest => if last = ['.', '.'] then name :: names else rest

/-- Two slashes at the start stay two, and more are one. -/
def rootSlashes (path : Text) : Text :=
  match path.takeWhile (· = '/') with
  | ['/', '/'] => ['/', '/']
  | [] => []
  | _ => ['/']

/-- The same path with no empty names, no single dots, and two dots at its start only. -/
def normal (path : Text) : Text :=
  let root := rootSlashes path
  let names := (Text.splitAt '/' path).foldl (stepNormal (!root.isEmpty)) []
  let result := root ++ Text.join ['/'] names.reverse
  if result.isEmpty then ['.'] else result

/-- Where an application keeps the data of the user whose home directory is given. -/
def userData (home app : Text) : Text :=
  trimSlashes home ++ "/.local/share/" ++ app

/-- A text that stands for a directory at the start of paths. -/
structure PrefixRule where
  sign : Text
  base : Text
  deriving DecidableEq, Repr

/-- Rules with longer signs first, and earlier rules first among those of one length. -/
abbrev PrefixRules := List PrefixRule

namespace PrefixRules

def add (rules : PrefixRules) (sign base : Text) : PrefixRules :=
  (rules ++ [PrefixRule.mk sign (normal base)]).mergeSort fun a b => b.sign.length ≤ a.sign.length

/-- The first rule whose sign the path starts with replaces the sign by its base. -/
def convert (rules : PrefixRules) (path : Text) : Text :=
  match rules.find? (·.sign.isPrefixOf path) with
  | some rule => join rule.base (path.drop rule.sign.length)
  | none => path

end PrefixRules

end Collation.Path
