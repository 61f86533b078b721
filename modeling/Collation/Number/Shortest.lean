import Collation.Number.Binary64

/-! The shortest decimal text that reads back as the same number. -/

namespace Collation.Shortest

/-- A decimal `digits * 10 ^ exponent`. -/
structure Decimal where
  digits : Nat
  exponent : Int
  deriving DecidableEq, Repr

/-- The decimals that read back as one number: those between two bounds, in quarters of the unit
`2 ^ exponent`, with the bounds themselves if `closed`. -/
structure Interval where
  low : Nat
  centre : Nat
  high : Nat
  exponent : Int
  closed : Bool

def Interval.of (m : Nat) (q : Int) : Interval :=
  let low := if m = Binary64.leadingBit && -1074 < q then 4 * m - 1 else 4 * m - 2
  ⟨low, 4 * m, 4 * m + 2, q - 2, m % 2 = 0⟩

/-- `num / den` times a power of a base. -/
def scale (base : Nat) (e : Int) (num den : Nat) : Nat × Nat :=
  if 0 ≤ e then (num * Nat.pow base e.toNat, den) else (num, den * Nat.pow base (-e).toNat)

/-- The centre in units of `10 ^ e`, as a ratio. -/
def Interval.ratio (i : Interval) (e : Int) : Nat × Nat :=
  let (num, den) := scale 2 i.exponent i.centre 1
  scale 10 (-e) num den

/-- Whether `n * 10 ^ e` lies in the interval. -/
def Interval.holds (i : Interval) (e : Int) (n : Nat) : Bool :=
  let (num, den) := scale 10 e n 1
  let (num, den) := scale 2 (-i.exponent) num den
  if i.closed then i.low * den ≤ num && num ≤ i.high * den
  else i.low * den < num && num < i.high * den

/-- The nearer of the centre's two neighbours on the grid of `10 ^ e` that lie in the interval, the
even one of two equally near. -/
def Interval.onGrid? (i : Interval) (e : Int) : Option Nat :=
  let (num, den) := i.ratio e
  let below := num / den
  let nearer := Binary64.roundDiv num den
  let other := if nearer = below then below + 1 else below
  [nearer, other].find? fun n => 0 < n && i.holds e n

/-- The place of the first digit of a positive ratio: it is at least `10 ^ e` and less than ten
times that. -/
def leadingPlace (num den : Nat) : Int :=
  let guess := Binary64.log2Ratio num den * 30103 / 100000
  let reaches (e : Int) : Bool :=
    let (n, d) := scale 10 (-e) num den
    d ≤ n
  if reaches (guess + 1) then guess + 1 else if reaches guess then guess else guess - 1

def trimZeros (d : Decimal) : Nat → Decimal
  | 0 => d
  | fuel + 1 =>
    if d.digits ≠ 0 && d.digits % 10 = 0 then trimZeros ⟨d.digits / 10, d.exponent + 1⟩ fuel else d

/-- Seventeen digits always suffice. -/
def ofParts (m : Nat) (q : Int) : Decimal :=
  let i := Interval.of m q
  let (num, den) := i.ratio 0
  let place := leadingPlace num den
  let found := (List.range 17).findSome? fun (n : Nat) =>
    (i.onGrid? (place - n)).map fun digits => trimZeros ⟨digits, place - n⟩ 20
  found.getD ⟨0, 0⟩

def exponentText (e : Int) : Text :=
  let ds := Nat.toDigits 10 e.natAbs
  'e' :: (if e < 0 then '-' else '+') :: if ds.length < 2 then '0' :: ds else ds

/-- Positional from 0.0001 up to below 10 ^ 16, and with an exponent outside that range. A whole
number ends in `point`. -/
def Decimal.render (point : Text) (d : Decimal) : Text :=
  let ds := Nat.toDigits 10 d.digits
  let place : Int := d.exponent + ds.length
  if -4 < place && place ≤ 16 then
    if place ≤ 0 then '0' :: '.' :: List.replicate (-place).toNat '0' ++ ds
    else if d.exponent ≥ 0 then ds ++ List.replicate d.exponent.toNat '0' ++ point
    else ds.take place.toNat ++ '.' :: ds.drop place.toNat
  else
    let fraction := ds.drop 1
    ds.take 1 ++ (if fraction.isEmpty then [] else '.' :: fraction) ++ exponentText (place - 1)

/-- The text of a number without its sign. -/
def magnitude (point : Text) (x : Float) : Text :=
  if x.isNaN then "nan"
  else if x.isInf then "inf"
  else
    let (m, q) := Binary64.parts x
    if m = 0 then '0' :: point else (ofParts m q).render point

/-- The text of a number on its own. -/
def text (x : Float) : Text :=
  (if Binary64.isNegative x && !x.isNaN then ['-'] else []) ++ magnitude ".0" x

/-- The text of a complex number: the imaginary part alone if the real part is positive zero, and
else the sum in parentheses. -/
def complexText (re im : Float) : Text :=
  let sign (x : Float) (plus : Text) : Text :=
    if Binary64.isNegative x && !x.isNaN then ['-'] else plus
  if re == 0 && !Binary64.isNegative re then sign im [] ++ magnitude [] im ++ ['j']
  else
    '(' :: sign re [] ++ magnitude [] re ++ sign im ['+'] ++ magnitude [] im ++ ['j', ')']

end Collation.Shortest
