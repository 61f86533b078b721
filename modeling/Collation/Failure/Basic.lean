import Collation.Config.Fault
import Collation.Failure.Raised
import Collation.File.Tree
import Collation.Text.Utf8

/-! Failures by cause, with their families and messages. -/

namespace Collation

/-- Why a stream does not take a text, or does not close well. -/
inductive StreamCause where
  | system (code : Nat) (reason : Text)
  | closed
  | encoding (message : Text)
  deriving DecidableEq, Repr

inductive Failure where
  /-- A rule text has a fault. -/
  | rule (e : RuleError)
  /-- A value is no strength. -/
  | strength (v : Value)
  /-- A setting names no normalization form. -/
  | form (v : Value)
  /-- A text cannot be put into a form that does not exist. -/
  | unknownForm
  | integer (base : Nat) (v : Value)
  | longInteger (count : Nat)
  | fraction (t : Text)
  | complex (t : Text)
  | malformedComplex
  /-- A dictionary cannot be made of single characters. -/
  | pair
  | unknownOption (key : Text)
  | argumentCount (key : Text) (count : Nat)
  | stringCount (count : Nat)
  | noMaximum
  | config (file : Text) (fault : Config.Fault)
  | file (cause : FileCause) (path : Text)
  | encoding (fault : Utf8.Fault)
  | stream (cause : StreamCause)
  /-- The format of a time has a null character. -/
  | nullFormat
  | noWorkers
  | noOption (name : Text)
  | noAttribute (kind name : Text)
  | noModule (name : Text)
  | noSubmodule (name parent : Text)
  | noFunction (module_ name : Text)
  | emptyModuleName
  | immutable
  /-- A setting is nested too deeply to be read. -/
  | tooNested
  /-- A setting is nested too deeply to be built. -/
  | tooHigh
  | tooLarge
  /-- A setting has a literal with surrogates, which no text can hold here. What becomes of it is left
  open, so that this belongs to no family that is settled. -/
  | surrogates
  | zeroDivision (message : Text)
  | arithmetic (family : Family) (message : Text)
  | noKey (t : Text)
  | index
  | type
  | notImplemented
  | helpShown
  /-- A failure that is raised by name, with its arguments. -/
  | raised (family : Family) (arguments : List Value)

namespace Failure

def fileFamily : FileCause → Family
  | .notFound => .fileNotFound
  | .alreadyExists => .fileExists
  | .notDirectory => .notDirectory
  | .isDirectory => .isDirectory
  | .nullCharacter => .value
  | .longName => .system
  | .other code _ => Family.ofSystemCode code

def streamFamily : StreamCause → Family
  | .system code _ => Family.ofSystemCode code
  | .closed => .value
  | .encoding _ => .unicodeEncode

/-- The narrowest family that a failure belongs to. -/
def family : Failure → Family
  | rule e => if e.cause = .empty then .emptyRule else .ruleSyntax
  | strength _ | form _ | unknownForm | integer _ _ | longInteger _ | fraction _ | complex _
  | malformedComplex | pair | unknownOption _ | argumentCount _ _ | stringCount _ | noMaximum
  | config _ _ | noWorkers | emptyModuleName | nullFormat => .value
  | file cause _ => fileFamily cause
  | encoding _ => .unicodeDecode
  | stream cause => streamFamily cause
  | noOption _ | noAttribute _ _ | noFunction _ _ | immutable => .attributeAccess
  | noModule _ | noSubmodule _ _ => .moduleNotFound
  | tooNested => .memory
  | tooHigh => .recursion
  | tooLarge => .overflow
  | surrogates => .any
  | zeroDivision _ => .zeroDivision
  | arithmetic f _ => f
  | noKey _ => .key
  | index => .index
  | type => .type
  | notImplemented => .notImplemented
  | helpShown => .systemExit
  | raised f _ => f

/-- Whether a failure is none of those that end a run, such as an interrupt. -/
def isOrdinary (e : Failure) : Bool :=
  e.family.isA .ordinary

def fileMessage (path : Text) : FileCause → Text
  | .notFound => systemMessage "2" "No such file or directory" ++ ": " ++ Text.quoted path
  | .alreadyExists => systemMessage "17" "File exists" ++ ": " ++ Text.quoted path
  | .notDirectory => systemMessage "20" "Not a directory" ++ ": " ++ Text.quoted path
  | .isDirectory => systemMessage "21" "Is a directory" ++ ": " ++ Text.quoted path
  | .nullCharacter => "embedded null byte"
  | .longName => systemMessage "36" "File name too long" ++ ": " ++ Text.quoted path
  | .other code reason => systemMessage (digits code) reason ++ ": " ++ Text.quoted path

def streamMessage : StreamCause → Text
  | .system code reason => systemMessage (digits code) reason
  | .closed => "I/O operation on closed file."
  | .encoding message => message

/-- At most 200 characters of a value that is no whole number, and of bytes only the first 200. -/
def shortened (v : Value) : Text :=
  (match v with
    | .bytes bs => Value.bytes (bs.take 200)
    | v => v).written.take 200

def message : Failure → Text
  | rule e => e.message
  | strength v => "Invalid collation strength: " ++ v.written
  | form v => "Invalid normalization form: " ++ v.written
  | unknownForm => "invalid normalization form"
  | integer base v =>
    "invalid literal for int() with base " ++ digits base ++ ": " ++ shortened v
  | longInteger count =>
    "Exceeds the limit (4300 digits) for integer string conversion: value has " ++ digits count ++
      " digits; use sys.set_int_max_str_digits() to increase the limit"
  | fraction t => "could not convert string to float: " ++ Text.quoted t
  | complex t => "could not convert string to complex: " ++ Text.quoted t
  | malformedComplex => "complex() arg is a malformed string"
  | pair => "dictionary update sequence element #0 has length 1; 2 is required"
  | unknownOption key => "Unknown option: " ++ key
  | argumentCount key count =>
    "Option " ++ key ++ " takes exactly one argument, got " ++ digits count ++ "."
  | stringCount count =>
    "Exactly two strings are required for comparison, got " ++ digits count ++ "."
  | noMaximum => "max() arg is an empty sequence"
  | config path fault => "Invalid config file " ++ path ++ ": " ++ fault.message path
  | file cause path => fileMessage path cause
  | encoding fault => fault.message
  | stream cause => streamMessage cause
  | nullFormat => "embedded null character"
  | noWorkers => "Number of processes must be at least 1"
  | noOption name => '"' :: name ++ "\" is not the name of a valid command-line option."
  | noAttribute kind name => '\'' :: kind ++ "' object has no attribute " ++ '\'' :: name ++ ['\'']
  | noModule name => "No module named " ++ Text.quoted name
  | noSubmodule name parent =>
    "No module named " ++ Text.quoted name ++ "; " ++ Text.quoted parent ++ " is not a package"
  | noFunction module_ name =>
    "module '" ++ module_ ++ "' has no attribute '" ++ name ++ ['\'']
  | emptyModuleName => "Empty module name"
  | immutable => "Structure is immutable."
  | tooLarge => "int too large to convert to float"
  | zeroDivision message => message
  | arithmetic _ message => message
  | noKey t => Text.quoted t
  | tooHigh => "maximum recursion depth exceeded during ast construction"
  | index | type | notImplemented | tooNested | surrogates => []
  | helpShown => "0"
  | raised f vs => (raisedMessage? f vs).getD []

/-- The message of a failure, unless its arguments make none. -/
def message? : Failure → Option Text
  | raised f vs => raisedMessage? f vs
  | e => some e.message

/-- A failure raised by name. One of the operating system that tells its code belongs to the family
of that code. If the arguments do not fit, this is the failure that is raised. -/
def raise (f : Family) (vs : List Value) : Failure :=
  match misfit? f vs, f, vs with
  | some why, _, _ => raised .type [.text why]
  | none, .system, code :: _ :: rest =>
    if rest.length ≤ 3 then raised ((code.whole?.map Family.ofSystemCode).getD f) vs
    else raised f vs
  | none, _, _ => raised f vs

/-- What a report says of a failure besides its family. -/
def detail : Failure → Text
  | raised f vs =>
    if f.isA .syntaxFault then syntaxReport vs
    else (raisedMessage? f vs).getD "<exception str() failed>".toList
  | e => e.message

/-- The last line of a report: the family, and the detail if there is any. -/
def report (e : Failure) : Text :=
  if e.detail.isEmpty then e.family.fullLabel else e.family.fullLabel ++ ": " ++ e.detail

end Failure

end Collation
