import Collation.Failure.Family
import Collation.Rule.Error
import Collation.Value.Written

/-! Failures that are raised by name, with arguments: which arguments fit a family, and the message
that they make. -/

namespace Collation.Failure

/-- One argument is the message, and several are listed. -/
def argumentsMessage : List Value → Text
  | [] => []
  | [v] => v.plain
  | vs => (Value.tuple vs).written

def systemMessage (code : Text) (reason : Text) : Text :=
  "[Errno " ++ code ++ "] " ++ reason

/-- The file that a failure concerns, and the file that it was to become. A failure that would block
may have the count of what was written in place of a file. -/
def filesNote (f : Family) : List Value → Text
  | [] | .none :: _ => []
  | path :: rest =>
    if f = .blocking && path.number?.isSome then []
    else match rest with
      | [_, .none] | [] | [_] => ": " ++ path.written
      | _ :: target :: _ => ": " ++ path.written ++ " -> " ++ target.written

/-- A failure of the operating system tells its code, the reason, and the files that it concerns. -/
def systemArgumentsMessage (f : Family) : List Value → Text
  | code :: reason :: files =>
    if 3 < files.length then argumentsMessage (code :: reason :: files)
    else systemMessage code.plain reason.plain ++ filesNote f files
  | vs => argumentsMessage vs

/-- Whether a real number is negative. -/
def isNegative? : Value → Option Bool
  | .bool _ => some false
  | .int n => some (n < 0)
  | .float x => some (x < 0)
  | _ => none

/-- A fault in rules has a message and a position, which is -1 unless it is known. Without a
position that counts, the message has to be a text. -/
def ruleArgumentsMessage? : List Value → Option Text
  | message :: rest => do
    let position := rest.headD (.int (-1))
    if ← isNegative? position then
      match message with
      | .text t => some t
      | _ => none
    else some (message.plain ++ " (at position " ++ position.plain ++ ")")
  | [] => none

/-- The characters of a text that cannot be encoded or translated. -/
def charactersNote (t : Text) (start stop : Int) : Text :=
  match if 0 ≤ start && stop = start + 1 then t[start.toNat]? else none with
  | some c =>
    let n := c.toNat
    let escape := if n ≤ 0xFF then 'x' :: hexDigits 2 n
      else if n ≤ 0xFFFF then 'u' :: hexDigits 4 n else 'U' :: hexDigits 8 n
    "character " ++ '\'' :: '\\' :: escape ++ "' in position " ++ digits start
  | none => "characters in position " ++ digits start ++ "-" ++ digits (stop - 1)

def unicodeArgumentsMessage : List Value → Text
  | [.text coding, .text t, start, stop, .text reason] =>
    '\'' :: coding ++ "' codec can't encode " ++
      charactersNote t (start.whole?.getD 0) (stop.whole?.getD 0) ++ ": " ++ reason
  | [.text t, start, stop, .text reason] =>
    "can't translate " ++ charactersNote t (start.whole?.getD 0) (stop.whole?.getD 0) ++ ": " ++
      reason
  | vs => argumentsMessage vs

/-- The place of a fault of syntax: the last part of the path of a file, and a line. -/
def placeNote : Value → Value → Text
  | .text path, .int line =>
    " (" ++ (Text.splitAt '/' path).getLastD [] ++ ", line " ++ digits line ++ ")"
  | .text path, _ => " (" ++ (Text.splitAt '/' path).getLastD [] ++ ")"
  | _, .int line => " (line " ++ digits line ++ ")"
  | _, _ => []

def syntaxArgumentsMessage : List Value → Text
  | [] => Value.none.written
  | [v, .list (file :: line :: _)] => v.plain ++ placeNote file line
  | v :: _ => v.plain

/-- The message of a failure, unless its arguments make none. -/
def raisedMessage? (f : Family) (vs : List Value) : Option Text :=
  if f.isA .ruleSyntax then ruleArgumentsMessage? vs
  else if f.isA .system then some (systemArgumentsMessage f vs)
  else if f.isA .key && vs.length = 1 then some (vs.headD .none).written
  else if f.isA .syntaxFault then some (syntaxArgumentsMessage vs)
  else if f.isA .unicodeEncode || f.isA .unicodeTranslate then some (unicodeArgumentsMessage vs)
  else some (argumentsMessage vs)

/-- What a report says of a fault of syntax. It tells the file only if it knows no line. -/
def syntaxReport (vs : List Value) : Text :=
  let detail := if vs.head?.any Value.isTruthy then (vs.headD .none).plain
    else "<no detail available>"
  match vs with
  | [_, .list (.none :: .none :: _)] => detail
  | [_, .list (file :: .none :: _)] => detail ++ " (" ++ file.plain ++ ")"
  | _ => detail

/-- What an argument has to be. -/
inductive Due where
  | text
  | whole
  | any

/-- Why a value is not what is due at a place, if it is not. -/
def misfitValue? (place : Nat) (due : Due) (v : Value) : Option Text :=
  match due, v with
  | .any, _ | .text, .text _ => none
  | .text, v =>
    let kind := match v with
      | .none => v.written
      | v => v.kindName
    some ("argument " ++ digits place ++ " must be str, not " ++ kind)
  | .whole, v =>
    if v.whole?.isSome then none
    else some ('\'' :: v.kindName ++ "' object cannot be interpreted as an integer")

/-- Why arguments are not what is due, if they are not. -/
def misfitValues? (due : List Due) (vs : List Value) : Option Text :=
  if vs.length ≠ due.length then
    some ("function takes exactly " ++ digits due.length ++ " arguments (" ++ digits vs.length ++
      " given)")
  else ((due.zip vs).zipIdx 1).findSome? fun ((due, v), place) => misfitValue? place due v

/-- Why a place is none: it has a file, a line, a column and a text, or these four and the line and
column of its end. -/
def misfitPlace? : Value → Option Text
  | .list vs =>
    if vs.length < 4 then
      some ("function takes at least 4 arguments (" ++ digits vs.length ++ " given)")
    else if 6 < vs.length then
      some ("function takes at most 6 arguments (" ++ digits vs.length ++ " given)")
    else if vs.length = 5 then
      some "end_offset must be provided when end_lineno is provided"
    else none
  | .text t => some ("function takes at least 4 arguments (" ++ digits t.length ++ " given)")
  | v => some ('\'' :: v.kindName ++ "' object is not iterable")

/-- Why arguments do not fit a family, if they do not. -/
def misfit? (f : Family) (vs : List Value) : Option Text :=
  if f.isA .ruleSyntax then
    match vs with
    | [] => some "RuleSyntaxError.__init__() missing 1 required positional argument: 'message'"
    | [_] | [_, _] => none
    | vs => some ("RuleSyntaxError.__init__() takes from 2 to 3 positional arguments but " ++
        digits (vs.length + 1) ++ " were given")
  else if f.isA .syntaxFault then
    match vs with
    | [_, place] => misfitPlace? place
    | _ => none
  else if f.isA .unicodeEncode then misfitValues? [.text, .text, .whole, .whole, .text] vs
  else if f.isA .unicodeTranslate then misfitValues? [.text, .whole, .whole, .text] vs
  else if f.isA .unicodeDecode then
    (misfitValues? [.text, .any, .whole, .whole, .text] vs).or
      (match vs with
        | [_, .bytes _, _, _, _] => none
        | _ => some ("a bytes-like object is required, not '" ++ (vs.getD 1 .none).kindName ++
            ['\'']))
  else none

end Collation.Failure
