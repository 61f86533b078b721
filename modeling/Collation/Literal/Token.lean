import Collation.Literal.Quoted
import Collation.Unicode.Identifier

/-! Tokens of expressions. -/

namespace Collation.Literal

inductive Keyword where
  | and | or | not | in_ | is | if_ | else_ | for_ | lambda | yield | from_ | await | async
  | none | true | false
  deriving DecidableEq

inductive Symbol where
  | plus | minus | tilde | star | slash | percent | at_ | ampersand | bar | caret | less | greater
  | assign | dot | comma | colon | ellipsis | twoStars | twoSlashes | leftShift | rightShift
  | atMost | atLeast | equal | unequal | bind
  deriving DecidableEq

inductive Bracket where
  | round | square | curly
  deriving DecidableEq

inductive Token where
  | number (v : Value)
  | quoted (q : Quoted)
  | name (t : Text)
  | keyword (k : Keyword)
  | symbol (s : Symbol)
  | opening (b : Bracket)
  | closing (b : Bracket)
  /-- The end of a line outside brackets. -/
  | newline
  /-- What can stand in no expression. It is the last token. -/
  | fault

def Keyword.ofText? (t : Text) : Option Keyword :=
  [("and".toList, and), ("or", or), ("not", not), ("in", in_), ("is", is), ("if", if_),
    ("else", else_), ("for", for_), ("lambda", lambda), ("yield", yield), ("from", from_),
    ("await", await), ("async", async), ("None", none), ("True", true), ("False", false)].lookup t

/-- Words of statements, which can stand in no expression. -/
def statementWords : List Text :=
  ["as", "assert", "break", "class", "continue", "def", "del", "elif", "except", "finally",
    "global", "import", "nonlocal", "pass", "raise", "return", "try", "while", "with"].map
    String.toList

/-- Symbols of statements, which can stand in no expression. -/
def statementSymbols : List Text :=
  ["**=", "//=", "<<=", ">>=", "->", "+=", "-=", "*=", "/=", "%=", "&=", "|=", "^=", "@=", "<>"].map
    String.toList

/-- Symbols of expressions, a longer one before its beginnings. -/
def symbols : List (Text × Symbol) :=
  [("...", .ellipsis), ("**", .twoStars), ("//", .twoSlashes), ("<<", .leftShift),
    (">>", .rightShift), ("<=", .atMost), (">=", .atLeast), ("==", .equal), ("!=", .unequal),
    (":=", .bind), ("+", .plus), ("-", .minus), ("~", .tilde), ("*", .star), ("/", .slash),
    ("%", .percent), ("@", .at_), ("&", .ampersand), ("|", .bar), ("^", .caret), ("<", .less),
    (">", .greater), ("=", .assign), (".", .dot), (",", .comma), (":", .colon)].map
    fun (s, symbol) => (String.toList s, symbol)

/-- The token of a word. Words beyond ASCII are names only if their characters may stand in names. -/
def Token.ofWord (t : Text) : Token :=
  match Keyword.ofText? t with
  | some k => .keyword k
  | none =>
    if !statementWords.contains t && Unicode.isIdentifier t then .name t else .fault

def Bracket.ofChar? (c : Char) : Option (Bracket × Bool) :=
  [('(', round, true), (')', round, false), ('[', square, true), (']', square, false),
    ('\x7b', curly, true), ('\x7d', curly, false)].lookup c

/-- The token at the start of a text that is no pad, comment, line end or joint, and the text after
it. -/
def Token.read? (t : Text) : Option (Token × Text) :=
  match t with
  | [] => none
  | c :: rest =>
    if c.isDigit || c = '.' && rest.head?.any Char.isDigit then
      (number? t).map fun (v, after) => (.number v, after)
    else if isNameStart c then
      let word := t.takeWhile isNamePart
      let after := t.dropWhile isNamePart
      match if after.head?.any isQuote then marks? word else none with
      | none => some (ofWord word, after)
      | some m => (quoted? m after).map fun (q, after) => (.quoted q, after)
    else if isQuote c then (quoted? .plain t).map fun (q, after) => (.quoted q, after)
    else match Bracket.ofChar? c with
      | some (b, opens) => some (if opens then .opening b else .closing b, rest)
      | none =>
        if statementSymbols.any (·.isPrefixOf t) then none
        else (symbols.find? fun p => p.1.isPrefixOf t).map fun (spelling, s) =>
          (.symbol s, t.drop spelling.length)

end Collation.Literal
