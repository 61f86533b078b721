import Collation.Text

/-! Families of failures, the narrower within the wider ones. -/

namespace Collation

inductive Family where
  | any
  | ordinary
  | keyboardInterrupt
  | systemExit
  | generatorExit
  | arithmetic
  | floatingPoint
  | overflow
  | zeroDivision
  | assertion
  | attributeAccess
  | buffer
  | endOfFile
  | importing
  | moduleNotFound
  | lookup
  | index
  | key
  | memory
  | name
  | unboundLocal
  | system
  | blocking
  | childProcess
  | connection
  | brokenPipe
  | connectionAborted
  | connectionRefused
  | connectionReset
  | fileExists
  | fileNotFound
  | interrupted
  | isDirectory
  | notDirectory
  | permission
  | processLookup
  | timeout
  | reference
  | runtime
  | notImplemented
  | recursion
  | stopIteration
  | stopAsyncIteration
  | syntaxFault
  | indentation
  | tabs
  | interpreter
  | type
  | value
  | unicode
  | unicodeDecode
  | unicodeEncode
  | unicodeTranslate
  | warning
  | bytesWarning
  | deprecationWarning
  | encodingWarning
  | futureWarning
  | importWarning
  | pendingDeprecationWarning
  | resourceWarning
  | runtimeWarning
  | syntaxWarning
  | unicodeWarning
  | userWarning
  | collation
  | ruleSyntax
  | emptyRule
  deriving DecidableEq, Repr

namespace Family

/-- The name of a family, and the families that it is directly within. -/
def row : Family → String × List Family
  | any => ("BaseException", [])
  | ordinary => ("Exception", [any])
  | keyboardInterrupt => ("KeyboardInterrupt", [any])
  | systemExit => ("SystemExit", [any])
  | generatorExit => ("GeneratorExit", [any])
  | arithmetic => ("ArithmeticError", [ordinary])
  | floatingPoint => ("FloatingPointError", [arithmetic])
  | overflow => ("OverflowError", [arithmetic])
  | zeroDivision => ("ZeroDivisionError", [arithmetic])
  | assertion => ("AssertionError", [ordinary])
  | attributeAccess => ("AttributeError", [ordinary])
  | buffer => ("BufferError", [ordinary])
  | endOfFile => ("EOFError", [ordinary])
  | importing => ("ImportError", [ordinary])
  | moduleNotFound => ("ModuleNotFoundError", [importing])
  | lookup => ("LookupError", [ordinary])
  | index => ("IndexError", [lookup])
  | key => ("KeyError", [lookup])
  | memory => ("MemoryError", [ordinary])
  | name => ("NameError", [ordinary])
  | unboundLocal => ("UnboundLocalError", [name])
  | system => ("OSError", [ordinary])
  | blocking => ("BlockingIOError", [system])
  | childProcess => ("ChildProcessError", [system])
  | connection => ("ConnectionError", [system])
  | brokenPipe => ("BrokenPipeError", [connection])
  | connectionAborted => ("ConnectionAbortedError", [connection])
  | connectionRefused => ("ConnectionRefusedError", [connection])
  | connectionReset => ("ConnectionResetError", [connection])
  | fileExists => ("FileExistsError", [system])
  | fileNotFound => ("FileNotFoundError", [system])
  | interrupted => ("InterruptedError", [system])
  | isDirectory => ("IsADirectoryError", [system])
  | notDirectory => ("NotADirectoryError", [system])
  | permission => ("PermissionError", [system])
  | processLookup => ("ProcessLookupError", [system])
  | timeout => ("TimeoutError", [system])
  | reference => ("ReferenceError", [ordinary])
  | runtime => ("RuntimeError", [ordinary])
  | notImplemented => ("NotImplementedError", [runtime])
  | recursion => ("RecursionError", [runtime])
  | stopIteration => ("StopIteration", [ordinary])
  | stopAsyncIteration => ("StopAsyncIteration", [ordinary])
  | syntaxFault => ("SyntaxError", [ordinary])
  | indentation => ("IndentationError", [syntaxFault])
  | tabs => ("TabError", [indentation])
  | interpreter => ("SystemError", [ordinary])
  | type => ("TypeError", [ordinary])
  | value => ("ValueError", [ordinary])
  | unicode => ("UnicodeError", [value])
  | unicodeDecode => ("UnicodeDecodeError", [unicode])
  | unicodeEncode => ("UnicodeEncodeError", [unicode])
  | unicodeTranslate => ("UnicodeTranslateError", [unicode])
  | warning => ("Warning", [ordinary])
  | bytesWarning => ("BytesWarning", [warning])
  | deprecationWarning => ("DeprecationWarning", [warning])
  | encodingWarning => ("EncodingWarning", [warning])
  | futureWarning => ("FutureWarning", [warning])
  | importWarning => ("ImportWarning", [warning])
  | pendingDeprecationWarning => ("PendingDeprecationWarning", [warning])
  | resourceWarning => ("ResourceWarning", [warning])
  | runtimeWarning => ("RuntimeWarning", [warning])
  | syntaxWarning => ("SyntaxWarning", [warning])
  | unicodeWarning => ("UnicodeWarning", [warning])
  | userWarning => ("UserWarning", [warning])
  | collation => ("CollationError", [ordinary])
  | ruleSyntax => ("RuleSyntaxError", [collation, value])
  | emptyRule => ("EmptyRuleError", [ruleSyntax])

def label (f : Family) : Text :=
  f.row.1.toList

def wider (f : Family) : List Family :=
  f.row.2

/-- The families of this program, which are written with the module that they come from. -/
def isOwn (f : Family) : Bool :=
  f = collation || f = ruleSyntax || f = emptyRule

def fullLabel (f : Family) : Text :=
  if f.isOwn then "rule_collator.rules." ++ f.label else f.label

/-- All families, in the order of their rows. -/
def all : List Family :=
  [any, ordinary, keyboardInterrupt, systemExit, generatorExit, arithmetic, floatingPoint, overflow,
    zeroDivision, assertion, attributeAccess, buffer, endOfFile, importing, moduleNotFound, lookup,
    index, key, memory, name, unboundLocal, system, blocking, childProcess, connection, brokenPipe,
    connectionAborted, connectionRefused, connectionReset, fileExists, fileNotFound, interrupted,
    isDirectory, notDirectory, permission, processLookup, timeout, reference, runtime,
    notImplemented, recursion, stopIteration, stopAsyncIteration, syntaxFault, indentation, tabs,
    interpreter, type, value, unicode, unicodeDecode, unicodeEncode, unicodeTranslate, warning,
    bytesWarning, deprecationWarning, encodingWarning, futureWarning, importWarning,
    pendingDeprecationWarning, resourceWarning, runtimeWarning, syntaxWarning, unicodeWarning,
    userWarning, collation, ruleSyntax, emptyRule]

def ofLabel? (t : Text) : Option Family :=
  if t = "IOError".toList || t = "EnvironmentError".toList then some system
  else all.find? (·.label = t)

/-- The families that are reached from a family by at most `steps` steps to a wider one. -/
def within : Nat → Family → List Family
  | 0, f => [f]
  | steps + 1, f => f :: f.wider.flatMap (within steps)

/-- No chain of families is longer than six. -/
def isA (f wide : Family) : Bool :=
  (within 6 f).contains wide

/-- The family of a failure of the operating system, by its code. -/
def ofSystemCode (code : Int) : Family :=
  let table : List (Int × Family) :=
    [(1, permission), (2, fileNotFound), (3, processLookup), (4, interrupted), (10, childProcess),
      (11, blocking), (13, permission), (17, fileExists), (20, notDirectory), (21, isDirectory),
      (32, brokenPipe), (103, connectionAborted), (104, connectionReset), (108, brokenPipe),
      (110, timeout), (111, connectionRefused), (114, blocking), (115, blocking)]
  (table.lookup code).getD system

end Family

end Collation
