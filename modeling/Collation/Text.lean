/-! Texts, their blank characters and their lines. -/

namespace Collation

/-- A text is its characters in order, so that positions and lengths count characters. -/
abbrev Text := List Char

instance : Coe String Text := ⟨String.toList⟩

/-- White space of any script, with the four separators of information U+001C to U+001F. -/
def isSpace (c : Char) : Bool :=
  let n := c.toNat
  (0x09 ≤ n && n ≤ 0x0D) || (0x1C ≤ n && n ≤ 0x20) || n = 0x85 || n = 0xA0 || n = 0x1680 ||
    (0x2000 ≤ n && n ≤ 0x200A) || n = 0x2028 || n = 0x2029 || n = 0x202F || n = 0x205F ||
    n = 0x3000

def isLineBreak (c : Char) : Bool :=
  let n := c.toNat
  (0x0A ≤ n && n ≤ 0x0D) || (0x1C ≤ n && n ≤ 0x1E) || n = 0x85 || n = 0x2028 || n = 0x2029

namespace Text

/-- Empty, or white space only. -/
def isBlank (t : Text) : Bool :=
  t.all isSpace

def stripLeft (t : Text) : Text :=
  t.dropWhile isSpace

def stripRight (t : Text) : Text :=
  (t.reverse.dropWhile isSpace).reverse

def strip (t : Text) : Text :=
  stripRight (stripLeft t)

/-- The lines of a text without their ends. A carriage return and the line feed after it end one
line together, and no empty line follows the last end. -/
def lines : Text → List Text
  | [] => []
  | '\r' :: '\n' :: rest => [] :: lines rest
  | c :: rest =>
    if isLineBreak c then [] :: lines rest
    else match lines rest with
      | [] => [[c]]
      | line :: more => (c :: line) :: more

/-- Every line end of a file is read as a line feed. -/
def unifyNewlines : Text → Text
  | [] => []
  | '\r' :: '\n' :: rest => '\n' :: unifyNewlines rest
  | '\r' :: rest => '\n' :: unifyNewlines rest
  | c :: rest => c :: unifyNewlines rest

def join (separator : Text) (ts : List Text) : Text :=
  (ts.intersperse separator).flatten

def padRight (width : Nat) (t : Text) : Text :=
  t ++ List.replicate (width - t.length) ' '

/-- The text before the first `c`, and the text after it if there is one. -/
def cut (c : Char) (t : Text) : Text × Option Text :=
  (t.takeWhile (· ≠ c), (t.dropWhile (· ≠ c)).tail?)

/-- The parts of a text between the occurrences of `c`. -/
def splitAt (c : Char) : Text → List Text
  | [] => [[]]
  | d :: rest =>
    if d = c then [] :: splitAt c rest
    else match splitAt c rest with
      | [] => [[d]]
      | part :: more => (d :: part) :: more

/-- Capitals A to Z become small, and no other character changes. -/
def lowerAscii (t : Text) : Text :=
  t.map Char.toLower

def upperAscii (t : Text) : Text :=
  t.map Char.toUpper

/-- Code point order, in which a proper beginning comes first. -/
def less (a b : Text) : Bool :=
  decide (a < b)

end Text

/-- The decimal digits of a number, after a hyphen if it is negative. -/
def digits (n : Int) : Text :=
  if n < 0 then '-' :: (Nat.toDigits 10 n.natAbs) else Nat.toDigits 10 n.natAbs

/-- At least `width` hexadecimal digits, the letters small. -/
def hexDigits (width n : Nat) : Text :=
  let ds := Nat.toDigits 16 n
  List.replicate (width - ds.length) '0' ++ ds

end Collation
