import Collation.Number.Binary64
import Collation.Unicode.Digit

/-! Numbers read from texts that users give. -/

namespace Collation.Numeral

/-- Decimal digits of any script become those of ASCII. -/
def toAsciiDigit (c : Char) : Char :=
  match Unicode.decimalValue? c with
  | some d => Char.ofNat ('0'.toNat + d)
  | none => c

/-- Removes underscores, each of which has to stand between two digits. -/
def removeUnderscores (before : Char) : Text → Option Text
  | [] => if before = '_' then none else some []
  | c :: rest =>
    if c = '_' then if before.isDigit then removeUnderscores c rest else none
    else if before = '_' && !c.isDigit then none
    else (removeUnderscores c rest).map (c :: ·)

/-- The value of a digit in a base up to 36, letters of either case after the figures. -/
def digitValue? (base : Nat) (c : Char) : Option Nat :=
  let value :=
    if c.isDigit then c.toNat - '0'.toNat
    else if c.isLower then c.toNat - 'a'.toNat + 10
    else if c.isUpper then c.toNat - 'A'.toNat + 10
    else base
  if value < base then some value else none

/-- The value of digits, of which there is at least one. -/
def natOfDigits? (base : Nat) (t : Text) : Option Nat :=
  if t.isEmpty then none
  else t.foldl (fun n? c => do return (← n?) * base + (← digitValue? base c)) (some 0)

/-- Underscores between digits of a base. -/
def dropSeparators (base : Nat) (t : Text) : Option Text :=
  let isDigit (c : Char) : Bool := (digitValue? base c).isSome
  let ok := (t.zip (t.drop 1 ++ ['_'])).all fun (c, next) => c ≠ '_' || isDigit next
  if ok && t.head?.all isDigit then some (t.filter (· ≠ '_')) else none

def splitSign : Text → Bool × Text
  | '-' :: t => (true, t)
  | '+' :: t => (false, t)
  | t => (false, t)

/-- More decimal digits than these are not read. -/
def maxDigits : Nat := 4300

inductive IntegerFault where
  | malformed
  | tooLong (count : Nat)

/-- White space around a numeral, which the separators of information are not. -/
def isPadding (c : Char) : Bool :=
  isSpace c && !(0x1C ≤ c.toNat && c.toNat ≤ 0x1F)

def trim (t : Text) : Text :=
  ((t.dropWhile isPadding).reverse.dropWhile isPadding).reverse

/-- The base that a numeral names by a letter after a zero. -/
def namedBase? : Text → Option Nat
  | '0' :: c :: _ =>
    match c.toLower with
    | 'x' => some 16
    | 'o' => some 8
    | 'b' => some 2
    | _ => none
  | _ => none

/-- Drops the two characters that name a base, and an underscore after them. -/
def dropBaseName (t : Text) : Text :=
  match t.drop 2 with
  | '_' :: rest => rest
  | rest => rest

/-- Digits are counted in bases other than powers of two, where many of them take long to read. -/
def isLimited (base : Nat) : Bool :=
  base.land (base - 1) ≠ 0

/-- White space around, a sign, and digits of a base up to 36 with single underscores between them.
In base 0 the numeral names its base; if it does not, the base is ten and only zero starts with the
digit zero. -/
def integerIn (base : Nat) (t : Text) : Except IntegerFault Int :=
  let (negative, body) := splitSign ((t.dropWhile isPadding).map toAsciiDigit)
  let named := namedBase? body
  let actual := if base = 0 then named.getD 10 else base
  let figures := if named = some actual then dropBaseName body else body
  let run := figures.takeWhile fun c => c = '_' || (digitValue? actual c).isSome
  match dropSeparators actual run with
  | none => .error .malformed
  | some ds =>
    if isLimited actual && maxDigits < ds.length then .error (.tooLong ds.length)
    else match natOfDigits? actual ds with
      | none => .error .malformed
      | some n =>
        let hasFalseZero := base = 0 && named.isNone && body.head? = some '0' && n ≠ 0
        if hasFalseZero || !(figures.drop run.length).all isPadding then .error .malformed
        else .ok (if negative then -n else n)

def integer (t : Text) : Except IntegerFault Int :=
  integerIn 10 t

/-- An exponent at the start of a text, if a digit comes after its mark and its sign. -/
def exponentAt (t : Text) : Int × Text :=
  match t with
  | [] => (0, t)
  | e :: r =>
    let (negative, ds) := splitSign r
    match natOfDigits? 10 (ds.takeWhile Char.isDigit) with
    | some k =>
      if e = 'e' || e = 'E' then (if negative then -k else k, ds.dropWhile Char.isDigit)
      else (0, t)
    | none => (0, t)

/-- The decimal at the start of a text: `digits`, `digits.digits` or either half of it, and an
exponent. -/
def decimalAt? (t : Text) : Option (Float × Text) :=
  let whole := t.takeWhile Char.isDigit
  let rest := t.dropWhile Char.isDigit
  let (fraction, rest) : Text × Text := match rest with
    | '.' :: r => (r.takeWhile Char.isDigit, r.dropWhile Char.isDigit)
    | r => ([], r)
  (natOfDigits? 10 (whole ++ fraction)).map fun n =>
    let (exponent, rest) := exponentAt rest
    (Binary64.ofDecimal n (exponent - fraction.length), rest)

/-- Infinity or no number by a name at the start of a text. -/
def namedAt? (t : Text) : Option (Float × Text) :=
  let names : List (Text × UInt64) :=
    [("infinity", Binary64.infinityBits.toUInt64), ("inf", Binary64.infinityBits.toUInt64),
      ("nan", 0x7FF8000000000000)].map fun (name, bits) => (String.toList name, bits)
  (names.find? fun p => p.1.isPrefixOf (Text.lowerAscii t)).map fun (name, bits) =>
    (Float.ofBits bits, t.drop name.length)

/-- The number at the start of a text: a sign, and a decimal or a name of infinity or of no
number. -/
def floatAt? (t : Text) : Option (Float × Text) :=
  let (negative, body) := splitSign t
  ((namedAt? body).or (decimalAt? body)).map fun (x, rest) => (if negative then -x else x, rest)

/-- A number with white space around. -/
def float? (t : Text) : Option Float :=
  match (removeUnderscores ' ' ((trim t).map toAsciiDigit)).bind floatAt? with
  | some (x, []) => some x
  | _ => none

/-- White space and digits become those of ASCII, up to the first other character beyond ASCII. -/
def toAscii (t : Text) : Text :=
  let isRead (c : Char) : Bool := c.toNat < 128 || isPadding c || (Unicode.decimalValue? c).isSome
  let read := (t.takeWhile isRead).map fun c => if isPadding c then ' ' else toAsciiDigit c
  if t.all isRead then read else read ++ ['?']

/-- The imaginary unit at the start of a text, and the text after it. -/
def afterUnit? : Text → Option Text
  | 'j' :: rest | 'J' :: rest => some rest
  | _ => none

/-- The sign at the start of a text as a number. -/
def unitSignAt? : Text → Option (Float × Text)
  | '+' :: rest => some (1, rest)
  | '-' :: rest => some (-1, rest)
  | _ => none

/-- The parts of a complex number at the start of a text: a number, an imaginary number, or their
sum. The imaginary number may be the unit with no number before it. -/
def complexAt? (t : Text) : Option ((Float × Float) × Text) :=
  match floatAt? t with
  | some (x, rest) =>
    match unitSignAt? rest with
    | some signed => do
      let (y, rest) := (floatAt? rest).getD signed
      return ((x, y), ← afterUnit? rest)
    | none =>
      match afterUnit? rest with
      | some rest => some ((0, x), rest)
      | none => some ((x, 0), rest)
  | none => do
    let (y, rest) := (unitSignAt? t).getD (1, t)
    return ((0, y), ← afterUnit? rest)

inductive ComplexFault where
  | malformed
  /-- An underscore stands in a wrong place. -/
  | separator
  deriving DecidableEq

/-- Drops the bracket at the start of a text, and tells whether there was one. -/
def dropBracket : Text → Bool × Text
  | '(' :: rest => (true, rest.dropWhile (· = ' '))
  | t => (false, t)

/-- A complex number with white space around, and perhaps in brackets. -/
def complex (t : Text) : Except ComplexFault (Float × Float) :=
  let ascii := toAscii t
  if ascii.contains '_' && (ascii.contains '\x00' || (removeUnderscores ' ' ascii).isNone) then
    .error .separator
  else
    let spaces (t : Text) : Text := t.dropWhile (· = ' ')
    let (bracketed, body) := dropBracket (spaces (ascii.filter (· ≠ '_')))
    match complexAt? body with
    | some (parts, rest) =>
      let rest := spaces rest
      let rest := if bracketed then
          if rest.head? = some ')' then spaces (rest.drop 1) else ['?']
        else rest
      if rest.isEmpty then .ok parts else .error .malformed
    | none => .error .malformed

end Collation.Numeral
