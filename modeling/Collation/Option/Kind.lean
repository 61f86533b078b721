import Collation.Failure.Basic
import Collation.Setting

/-! Kinds of options, and the values that their arguments stand for. -/

namespace Collation

inductive OptionKind where
  | text
  | int
  | bool
  | float
  | complex
  | dict
  | list
  | tuple
  | set
  /-- A kind that no text can be made into. -/
  | other (name : Text)
  deriving DecidableEq, Repr

namespace OptionKind

def ofValue : Value → OptionKind
  | .text _ => text
  | .int _ => int
  | .bool _ => bool
  | .float _ => float
  | .complex _ _ => complex
  | .dict _ => dict
  | .list _ => list
  | .tuple _ => tuple
  | .set _ => set
  | v => other v.kindName

/-- The kind of an option is that of its default value, and an option without one takes a text. -/
def ofDefault : Value → OptionKind
  | .none => text
  | v => ofValue v

def isCollection : OptionKind → Bool
  | list | tuple | set => true
  | _ => false

def label : OptionKind → Text
  | text => "str"
  | int => "int"
  | bool => "bool"
  | float => "float"
  | complex => "complex"
  | dict => "dict"
  | list => "list"
  | tuple => "tuple"
  | set => "set"
  | other name => name

/-- Words that switch an option on, in any case. -/
def isYes (t : Text) : Bool :=
  ["1", "true", "yes", "on"].any fun word => word.toList = Text.lowerAscii (Text.strip t)

def readFloat (t : Text) : Except Failure Float :=
  match Numeral.float? t with
  | some x => .ok x
  | none => .error (.fraction t)

def readComplex (t : Text) : Except Failure Value :=
  match Numeral.complex t with
  | .ok (re, im) => .ok (.complex re im)
  | .error .malformed => .error .malformedComplex
  | .error .separator => .error (.complex t)

/-- A dictionary is made of pairs, and a character is none. -/
def readDict (t : Text) : Except Failure Value :=
  if t.isEmpty then .ok (.dict []) else .error .pair

def convertOne (kind : OptionKind) (t : Text) : Except Failure Value :=
  match kind with
  | text => .ok (.text t)
  | int => (Setting.readInteger t).map .int
  | bool => .ok (.bool (isYes t))
  | float => (readFloat t).map .float
  | complex => readComplex t
  | dict => readDict t
  | list | tuple | set | other _ => .error .type

/-- Collections take any number of arguments, and other kinds exactly one. -/
def convert (kind : OptionKind) (key : Text) (arguments : List Text) : Except Failure Value :=
  match kind, arguments with
  | list, as => .ok (.list (as.map .text))
  | tuple, as => .ok (.tuple (as.map .text))
  | set, as => .ok (Value.setOf (as.map .text))
  | kind, [a] => kind.convertOne a
  | _, as => .error (.argumentCount key as.length)

end OptionKind

/-- An option with its key on the command line. -/
structure OptionSpec where
  key : Text
  description : Text
  kind : OptionKind
  deriving DecidableEq, Repr

namespace OptionSpec

def noDescription : Text := "No description."

def usage (o : OptionSpec) : Text :=
  o.key ++ '=' ::
    if o.kind.isCollection then "<str> [<str> ...]" else '<' :: o.kind.label ++ ['>']

end OptionSpec

end Collation
