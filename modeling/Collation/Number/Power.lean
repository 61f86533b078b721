import Collation.Number.Binary64

/-! Powers and remainders of numbers. -/

namespace Collation

/-- A floating-point number with an imaginary part. -/
structure Complex where
  re : Float
  im : Float

inductive PowerFault where
  | zeroBase
  | tooLarge
  | complexZeroBase
  | complexTooLarge
  | zeroModulus
  | notInvertible
  deriving DecidableEq, Repr

namespace Complex

def one : Complex := ⟨1, 0⟩

def mul (a b : Complex) : Complex :=
  ⟨a.re * b.re - a.im * b.im, a.re * b.im + a.im * b.re⟩

/-- One over a number, scaled by the larger of its two parts. -/
def inverse (a : Complex) : Complex :=
  if a.re.abs ≥ a.im.abs then
    let ratio := a.im / a.re
    let scale := a.re + a.im * ratio
    ⟨1 / scale, (0 - ratio) / scale⟩
  else
    let ratio := a.re / a.im
    let scale := a.re * ratio + a.im
    ⟨(ratio + 0) / scale, -1 / scale⟩

/-- By repeated squaring, from the lowest binary digit of the exponent. -/
def powNat (a : Complex) (n : Nat) : Complex :=
  let step (state : Complex × Complex) (bit : Nat) : Complex × Complex :=
    (if n.testBit bit then state.1.mul state.2 else state.1, state.2.mul state.2)
  ((List.range (n.log2 + 1)).foldl step (one, a)).1

def powInt (a : Complex) (n : Int) : Complex :=
  if 0 < n then a.powNat n.toNat else (a.powNat n.natAbs).inverse

/-- By length and angle. -/
def powPolar (a b : Complex) : Complex :=
  let size := (a.re * a.re + a.im * a.im).sqrt
  let size := if a.im == 0 then a.re.abs else if a.re == 0 then a.im.abs else size
  let angle := Float.atan2 a.im a.re
  let grown := Float.pow size b.re
  let turned := angle * b.re
  let (length, phase) :=
    if b.im == 0 then (grown, turned)
    else (grown / Float.exp (angle * b.im), turned + b.im * Float.log size)
  ⟨length * Float.cos phase, length * Float.sin phase⟩

def pow (a b : Complex) : Except PowerFault Complex :=
  let result : Except PowerFault Complex :=
    if b.im == 0 && b.re == b.re.floor && b.re.abs <= 100 then
      let n := (Binary64.toInt? b.re).getD 0
      if n < 0 && a.re == 0 && a.im == 0 then .error .complexZeroBase else .ok (a.powInt n)
    else if a.re == 0 && a.im == 0 then
      if b.im != 0 || b.re < 0 then .error .complexZeroBase else .ok ⟨0, 0⟩
    else .ok (a.powPolar b)
  result.bind fun z => if z.re.isInf || z.im.isInf then .error .complexTooLarge else .ok z

end Complex

namespace Binary64

/-- The remainder of a division that is rounded toward zero. It has the sign of the dividend, and it
is exact. -/
def remainder (x y : Float) : Float :=
  if x.isNaN || y.isNaN || x.isInf || y == 0 then 0.0 / 0.0
  else if y.isInf then x
  else
    let (m, p) := parts x
    let (n, q) := parts y
    let e := min p q
    let r := (m <<< (p - e).toNat) % (n <<< (q - e).toNat)
    let size := if 0 ≤ e then ofRatio (r <<< e.toNat) 1 else ofRatio r (1 <<< (-e).toNat)
    if isNegative x then -size else size

/-- The whole part of a finite number, without what stands after the point. -/
def truncate? (x : Float) : Option Int :=
  if x.isNaN || x.isInf then none
  else
    let (m, q) := parts x
    let size : Nat := if 0 ≤ q then m <<< q.toNat else m >>> (-q).toNat
    some (if isNegative x then -(size : Int) else size)

def isOdd (x : Float) : Bool :=
  (toInt? x).any fun n => n % 2 ≠ 0

/-- A power with a real result. -/
def realPower (x y : Float) : Except PowerFault Float :=
  if x == 0 && y < 0 then .error .zeroBase
  else
    let z := Float.pow x y
    if z.isInf && !x.isInf && !y.isInf then .error .tooLarge else .ok z

end Binary64

/-- The power in the remainders by a positive modulus, by repeated squaring. -/
def powMod (modulus base exponent : Nat) : Nat :=
  let step (bit : Bool) (result : Nat) : Nat :=
    let squared := result * result % modulus
    if bit then squared * base % modulus else squared
  ((List.range (exponent.log2 + 1)).map exponent.testBit).foldr step (1 % modulus)

/-- A number whose product with `n` leaves the remainder 1, found on the way down to the greatest
common divisor. -/
def inverseMod? (modulus n : Nat) : Option Nat :=
  let rec go (fuel : Nat) (a b : Int) (s t : Int) : Option Nat :=
    match fuel with
    | 0 => none
    | fuel + 1 =>
      if b = 0 then if a = 1 then some (s % modulus).toNat else none
      else go fuel b (a % b) t (s - a / b * t)
  go (modulus + 2) n modulus 1 0

/-- The result lies between zero and the modulus and has its sign. -/
def powModInt (modulus base exponent : Int) : Except PowerFault Int :=
  let size := modulus.natAbs
  let withSign (r : Nat) : Int := if modulus < 0 && r ≠ 0 then (r : Int) + modulus else r
  if size = 0 then .error .zeroModulus
  else if size = 1 then .ok 0
  else
    let remainder := (base % (size : Int)).toNat
    if 0 ≤ exponent then .ok (withSign (powMod size remainder exponent.toNat))
    else match inverseMod? size remainder with
      | none => .error .notInvertible
      | some i => .ok (withSign (powMod size i exponent.natAbs))

end Collation
