import Collation.Number.Numeral
import Collation.Value.Basic

/-! Number literals. -/

namespace Collation.Literal

/-- Characters of names. All characters beyond ASCII count as such. -/
def isNameStart (c : Char) : Bool :=
  c.isAlpha || c = '_' || 128 ≤ c.toNat

def isNamePart (c : Char) : Bool :=
  isNameStart c || c.isDigit

/-- Words of operators, which may stand right behind a number. -/
def operatorWords : List Text :=
  ["and", "else", "for", "if", "in", "is", "not", "or"].map String.toList

def endsNumber (t : Text) : Bool :=
  !t.head?.any isNamePart || operatorWords.any (·.isPrefixOf t)

/-- Digits of a base after the mark of the base, with single underscores before any of them, and the
text after them. -/
def basedInteger? (base : Nat) (t : Text) : Option (Int × Text) :=
  let isPart (c : Char) : Bool := c = '_' || (Numeral.digitValue? base c).isSome
  let run := t.takeWhile isPart
  let figures := if run.head? = some '_' then run.drop 1 else run
  ((Numeral.dropSeparators base figures).bind (Numeral.natOfDigits? base)).map fun n =>
    (n, t.dropWhile isPart)

def baseOfMark? (c : Char) : Option Nat :=
  if c = 'x' || c = 'X' then some 16
  else if c = 'o' || c = 'O' then some 8
  else if c = 'b' || c = 'B' then some 2
  else none

structure DecimalParts where
  whole : Text
  point : Bool
  fraction : Text
  exponent : Option Text
  imaginary : Bool

def isDigitOrSeparator (c : Char) : Bool :=
  c.isDigit || c = '_'

/-- Splits off an exponent: its mark, a sign, and digits. A mark with neither after it is none. -/
def splitExponent (t : Text) : Option Text × Text :=
  match t with
  | [] => (none, [])
  | e :: rest =>
    if e = 'e' || e = 'E' then
      match rest with
      | [] => (none, t)
      | c :: digits =>
        if c = '-' || c = '+' then
          (some (c :: digits.takeWhile isDigitOrSeparator), digits.dropWhile isDigitOrSeparator)
        else if c.isDigit then
          (some (rest.takeWhile isDigitOrSeparator), rest.dropWhile isDigitOrSeparator)
        else (none, t)
    else (none, t)

def splitDecimal (t : Text) : DecimalParts × Text :=
  let whole := t.takeWhile isDigitOrSeparator
  let rest := t.dropWhile isDigitOrSeparator
  let (point, fraction, rest) : Bool × Text × Text := match rest with
    | '.' :: r => (true, r.takeWhile isDigitOrSeparator, r.dropWhile isDigitOrSeparator)
    | r => (false, [], r)
  let (exponent, rest) := splitExponent rest
  match rest with
  | 'j' :: rest | 'J' :: rest => (⟨whole, point, fraction, exponent, true⟩, rest)
  | _ => (⟨whole, point, fraction, exponent, false⟩, rest)

def plainDigits? (t : Text) : Option Text :=
  if t.isEmpty then some [] else Numeral.dropSeparators 10 t

/-- A whole number has no leading zero unless it is zero, and not more digits than are read. -/
def DecimalParts.value? (p : DecimalParts) : Option Value := do
  let whole ← plainDigits? p.whole
  let fraction ← plainDigits? p.fraction
  if whole.isEmpty && fraction.isEmpty then none
  else
    let mantissa ← Numeral.natOfDigits? 10 (whole ++ fraction)
    let exponent ← match p.exponent with
      | none => some 0
      | some e => do
        let (negative, ds) := Numeral.splitSign e
        let n ← Numeral.natOfDigits? 10 (← plainDigits? ds)
        some (if negative then -(n : Int) else n)
    if p.point || p.exponent.isSome || p.imaginary then
      let x := Binary64.ofDecimal mantissa (exponent - fraction.length)
      some (if p.imaginary then .complex 0 x else .float x)
    else if whole.head? = some '0' && mantissa ≠ 0 then none
    else if mantissa ≠ 0 && Numeral.maxDigits < whole.length then none
    else some (.int mantissa)

def number? (t : Text) : Option (Value × Text) :=
  let based? : Option (Nat × Text) := match t with
    | '0' :: mark :: rest => (baseOfMark? mark).map (·, rest)
    | _ => none
  let read? : Option (Value × Text) := match based? with
    | some (base, rest) => (basedInteger? base rest).map fun (n, after) => (.int n, after)
    | none =>
      let (parts, rest) := splitDecimal t
      parts.value?.map (·, rest)
  read?.filter fun (_, rest) => endsNumber rest

end Collation.Literal
