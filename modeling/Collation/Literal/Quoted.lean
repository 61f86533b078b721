import Collation.Literal.Numeral
import Collation.Unicode.Name

/-! Text literals: marks before the quotes, quotes and escapes. -/

namespace Collation.Literal

def isQuote (c : Char) : Bool :=
  c = '\'' || c = '"'

/-- The body of a literal up to its closing quote, and the text after that. A backslash keeps the
character after it from closing. A literal in single quotes ends on its line. `found` holds what was
read of the body, the last character first. -/
def body? (mark : Char) (triple : Bool) (found : Text) : Text → Option (Text × Text)
  | [] => none
  | ['\\'] => none
  | '\\' :: c :: rest => body? mark triple (c :: '\\' :: found) rest
  | c :: rest =>
    if triple then
      if [mark, mark, mark].isPrefixOf (c :: rest) then some (found.reverse, rest.drop 2)
      else body? mark triple (c :: found) rest
    else if c = mark then some (found.reverse, rest)
    else if c = '\n' then none
    else body? mark triple (c :: found) rest

def octal? (c : Char) : Option Nat :=
  Numeral.digitValue? 8 c

def hexValue? (cs : Text) : Option Nat :=
  Numeral.natOfDigits? 16 cs

def simpleEscape? (c : Char) : Option Nat :=
  [('\\', 0x5C), ('\'', 0x27), ('"', 0x22), ('a', 7), ('b', 8), ('f', 12), ('n', 10), ('r', 13),
    ('t', 9), ('v', 11)].lookup c

mutual

/-- The character codes that a body stands for. An escape that is none keeps its backslash. Texts,
not bytes, know names and escapes of four and of eight digits. `found` holds the codes so far, the
last one first. -/
def unescape (isBytes : Bool) (found : List Nat) : Text → Option (List Nat)
  | [] => some found.reverse
  | '\\' :: '\n' :: rest => unescape isBytes found rest
  | '\\' :: 'x' :: a :: b :: rest =>
    match hexValue? [a, b] with
    | some code => unescape isBytes (code :: found) rest
    | none => none
  | '\\' :: 'u' :: a :: b :: c :: d :: rest =>
    if isBytes then unescape isBytes ('u'.toNat :: 0x5C :: found) (a :: b :: c :: d :: rest)
    else match hexValue? [a, b, c, d] with
      | some code => unescape isBytes (code :: found) rest
      | none => none
  | '\\' :: 'U' :: a :: b :: c :: d :: e :: f :: g :: h :: rest =>
    if isBytes then
      unescape isBytes ('U'.toNat :: 0x5C :: found)
        (a :: b :: c :: d :: e :: f :: g :: h :: rest)
    else match hexValue? [a, b, c, d, e, f, g, h] with
      | some code => if code < 0x110000 then unescape isBytes (code :: found) rest else none
      | none => none
  | '\\' :: 'N' :: '\x7b' :: rest =>
    if isBytes then unescape isBytes ('N'.toNat :: 0x5C :: found) ('\x7b' :: rest)
    else unescapeName found [] rest
  | '\\' :: c :: rest =>
    match octal? c with
    | some x =>
      match rest with
      | d :: e :: rest' =>
        match octal? d, octal? e with
        | some y, some z => unescape isBytes ((x * 64 + y * 8 + z) :: found) rest'
        | some y, none => unescape isBytes ((x * 8 + y) :: found) (e :: rest')
        | none, _ => unescape isBytes (x :: found) (d :: e :: rest')
      | [d] =>
        match octal? d with
        | some y => some ((x * 8 + y) :: found).reverse
        | none => unescape isBytes (x :: found) [d]
      | [] => some (x :: found).reverse
    | none =>
      match simpleEscape? c with
      | some code => unescape isBytes (code :: found) rest
      | none =>
        if c = 'x' || !isBytes && (c = 'u' || c = 'U' || c = 'N') then none
        else unescape isBytes (c.toNat :: 0x5C :: found) rest
  | c :: rest => unescape isBytes (c.toNat :: found) rest

def unescapeName (found : List Nat) (letters : Text) : Text → Option (List Nat)
  | [] => none
  | c :: rest =>
    if c = '\x7d' then
      match Unicode.named? letters.reverse with
      | some code => unescape false (code :: found) rest
      | none => none
    else unescapeName found (c :: letters) rest

end

def isSurrogate (code : Nat) : Bool :=
  0xD800 ≤ code && code < 0xE000

/-- The characters that codes stand for. A surrogate is none, whatever stands next to it. -/
def characters? (codes : List Nat) : Option Text :=
  if codes.any isSurrogate then none else some (codes.map Char.ofNat)

structure Marks where
  isRaw : Bool
  isBytes : Bool
  isTemplate : Bool

def Marks.plain : Marks := ⟨false, false, false⟩

def marks? (t : Text) : Option Marks :=
  let marks := Text.lowerAscii t
  if marks = ['u'] then some .plain
  else if marks = ['r'] then some ⟨true, false, false⟩
  else if marks = ['b'] then some ⟨false, true, false⟩
  else if marks = ['f'] then some ⟨false, false, true⟩
  else if marks = ['b', 'r'] || marks = ['r', 'b'] then some ⟨true, true, false⟩
  else if marks = ['f', 'r'] || marks = ['r', 'f'] then some ⟨true, false, true⟩
  else none

inductive Quoted where
  /-- A text, unless it has surrogates. -/
  | text (t : Option Text)
  | bytes (bs : List UInt8)
  /-- A text with fields in braces, which are still to be read. -/
  | template (isRaw : Bool) (body : Text)

/-- What a body holds. Bytes are written in ASCII. -/
def Marks.quoted? (m : Marks) (body : Text) : Option Quoted :=
  if m.isTemplate then some (.template m.isRaw body)
  else if m.isBytes && body.any (128 ≤ ·.toNat) then none
  else
    (if m.isRaw then some (body.map Char.toNat) else unescape m.isBytes [] body).map fun codes =>
      if m.isBytes then .bytes (codes.map Nat.toUInt8) else .text (characters? codes)

/-- The literal that starts with a quote, and the text after it. -/
def quoted? (m : Marks) (t : Text) : Option (Quoted × Text) :=
  match t with
  | [] => none
  | mark :: rest =>
    let triple := [mark, mark].isPrefixOf rest
    match body? mark triple [] (if triple then rest.drop 2 else rest) with
    | none => none
    | some (body, after) => (m.quoted? body).map (·, after)

end Collation.Literal
