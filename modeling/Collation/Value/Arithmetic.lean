import Collation.Failure.Basic
import Collation.Number.Power

/-! Arithmetic on values: powers, quotients with remainders, and the next value. -/

namespace Collation.Value

def PowerFault.failure : PowerFault → Failure
  | .zeroBase => .zeroDivision "0.0 cannot be raised to a negative power"
  | .tooLarge => .arithmetic .overflow "(34, 'Numerical result out of range')"
  | .complexZeroBase => .zeroDivision "0.0 to a negative or complex power"
  | .complexTooLarge => .arithmetic .overflow "complex exponentiation"
  | .zeroModulus => .raised .value [text "pow() 3rd argument cannot be 0"]
  | .notInvertible => .raised .value [text "base is not invertible for the given modulus"]

def ofPower {α : Type} (f : α → Value) (x : Except PowerFault α) : Except Failure Value :=
  (x.map f).mapError PowerFault.failure

def Real.toFloat : Real → Except Failure Float
  | .whole n => match Binary64.ofInt? n with
    | some x => .ok x
    | Option.none => .error .tooLarge
  | .fraction x => .ok x

/-- A negative number has a complex power unless the exponent is whole. -/
def powFloat (x y : Float) : Except Failure Value :=
  if x < 0 && !x.isInf && !y.isNaN && !y.isInf && y != y.floor then
    ofPower (fun z => complex z.re z.im) (Complex.pow ⟨x, 0⟩ ⟨y, 0⟩)
  else ofPower float (Binary64.realPower x y)

/-- Whole numbers have whole powers, unless the exponent is negative. -/
def pow (base exponent : Value) : Except Failure Value :=
  match base.whole?, exponent.whole? with
  | some b, some e =>
    if 0 ≤ e then .ok (int (b.pow e.toNat))
    else do powFloat (← (Real.whole b).toFloat) (← (Real.whole e).toFloat)
  | _, _ =>
    match base.number?, exponent.number? with
    | some (x, i), some (y, j) => do
      let x ← x.toFloat
      let y ← y.toFloat
      match base, exponent with
      | complex _ _, _ | _, complex _ _ =>
        ofPower (fun z => complex z.re z.im) (Complex.pow ⟨x, i⟩ ⟨y, j⟩)
      | _, _ => powFloat x y
    | _, _ => .error .type

/-- Only whole numbers have powers in the remainders by a modulus. -/
def powMod (base exponent modulus : Value) : Except Failure Value :=
  match base.whole?, exponent.whole?, modulus.whole? with
  | some b, some e, some m => ofPower int (powModInt m b e)
  | _, _, _ => .error .type

/-- The quotient is rounded down, so that the remainder has the sign of the divisor. -/
def divFloat (x y : Float) : Float × Float :=
  let r := Binary64.remainder x y
  let q := (x - r) / y
  let (q, r) :=
    if r == 0 then (q, if Binary64.isNegative y then -0.0 else 0.0)
    else if (y < 0) != (r < 0) then (q - 1, r + y)
    else (q, r)
  let quotient :=
    if q == 0 then if Binary64.isNegative (x / y) then -0.0 else 0.0
    else if q - q.floor > 0.5 then q.floor + 1
    else q.floor
  (quotient, r)

def divide (a b : Value) : Except Failure Value :=
  match a.whole?, b.whole? with
  | some m, some n =>
    if n = 0 then .error (.zeroDivision "integer division or modulo by zero")
    else .ok (tuple [int (m.fdiv n), int (m.fmod n)])
  | _, _ =>
    match a, b with
    | complex _ _, _ | _, complex _ _ => .error .type
    | a, b =>
      match a.number?, b.number? with
      | some (x, _), some (y, _) => do
        let x ← x.toFloat
        let y ← y.toFloat
        if y == 0 then .error (.zeroDivision "float divmod()")
        else
          let (q, r) := divFloat x y
          .ok (tuple [float q, float r])
      | _, _ => .error .type

/-- One more than a number of any kind. -/
def successor (v : Value) : Except Failure Value :=
  match v with
  | float x => .ok (float (x + 1))
  | complex re im => .ok (complex (re + 1) im)
  | v => match v.whole? with
    | some n => .ok (int (n + 1))
    | Option.none => .error .type

end Collation.Value
