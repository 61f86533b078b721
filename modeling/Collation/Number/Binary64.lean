import Collation.Text

/-! Binary floating-point numbers of 64 bits, read from exact ratios and taken apart again. -/

namespace Collation.Binary64

/-- The quotient rounded to a whole number, a half to the even neighbour. -/
def roundDiv (num den : Nat) : Nat :=
  let q := num / den
  let r := num % den
  if 2 * r < den then q
  else if den < 2 * r then q + 1
  else if q % 2 = 0 then q else q + 1

/-- The whole part of the binary logarithm of a positive ratio. -/
def log2Ratio (num den : Nat) : Int :=
  let e : Int := num.log2 - den.log2
  let reached := if 0 ≤ e then den <<< e.toNat ≤ num else den ≤ num <<< (-e).toNat
  if reached then e else e - 1

def infinityBits : Nat := 0x7FF0000000000000

/-- The bits of the number nearest to a ratio, a tie to the even one. Past the largest finite number
stands infinity. -/
def nearestBits (num den : Nat) : Nat :=
  if num = 0 then 0
  else
    let q := max (-1074) (log2Ratio num den - 52)
    let m := if 0 ≤ q then roundDiv num (den <<< q.toNat) else roundDiv (num <<< (-q).toNat) den
    min infinityBits ((q + 1074).toNat <<< 52 + m)

def ofRatio (num den : Nat) : Float :=
  Float.ofBits (nearestBits num den).toUInt64

/-- The number nearest to `mantissa * 10 ^ exponent`. -/
def ofDecimal (mantissa : Nat) (exponent : Int) : Float :=
  let size : Int := (Nat.toDigits 10 mantissa).length
  if mantissa = 0 || exponent + size < -330 then ofRatio 0 1
  else if 310 < exponent + size then Float.ofBits infinityBits.toUInt64
  else if 0 ≤ exponent then ofRatio (mantissa * Nat.pow 10 exponent.toNat) 1
  else ofRatio mantissa (Nat.pow 10 (-exponent).toNat)

/-- The number nearest to an integer, if it is not beyond all finite ones. -/
def ofInt? (n : Int) : Option Float :=
  let bits := nearestBits n.natAbs 1
  if bits = infinityBits then none
  else
    let x := Float.ofBits bits.toUInt64
    some (if n < 0 then -x else x)

def isNegative (x : Float) : Bool :=
  x.toBits.toNat.testBit 63

/-- The highest bit of a mantissa, which only the smallest numbers are without. -/
def leadingBit : Nat := 1 <<< 52

/-- The mantissa and the exponent of two of a finite number without its sign. -/
def parts (x : Float) : Nat × Int :=
  let bits := x.toBits.toNat
  let fraction := bits % leadingBit
  match bits >>> 52 % 0x800 with
  | 0 => (fraction, -1074)
  | e + 1 => (leadingBit + fraction, e - 1074)

/-- The mantissa with its sign, and the exponent of two. -/
def signedParts (x : Float) : Int × Int :=
  let (m, q) := parts x
  (if isNegative x then -(m : Int) else m, q)

/-- The integer that a finite number equals, if there is one. -/
def toInt? (x : Float) : Option Int :=
  if x.isNaN || x.isInf then none
  else
    let (m, q) := parts x
    let sign : Int := if isNegative x then -1 else 1
    if 0 ≤ q then some (sign * (m <<< q.toNat : Nat))
    else if m % (1 <<< (-q).toNat) = 0 then some (sign * (m >>> (-q).toNat : Nat))
    else none

end Collation.Binary64
