import Collation.Value.Basic

/-! The order of values. Most kinds of values are ordered among themselves only. -/

namespace Collation.Value

def Real.less : Real → Real → Bool
  | .whole m, .whole n => m < n
  | .fraction x, .fraction y => x < y
  | .whole m, .fraction x =>
    if x.isNaN then false
    else if x.isInf then !Binary64.isNegative x
    else
      let (n, q) := Binary64.signedParts x
      if 0 ≤ q then m < n <<< q.toNat else m <<< (-q).toNat < n
  | .fraction x, .whole m =>
    if x.isNaN then false
    else if x.isInf then Binary64.isNegative x
    else
      let (n, q) := Binary64.signedParts x
      if 0 ≤ q then n <<< q.toNat < m else n < m <<< (-q).toNat

mutual

/-- Whether the first value comes after the second, if the two have an order. Sets are ordered by
what they contain. -/
def after? : Value → Value → Option Bool
  | text s, text t => some (Text.less t s)
  | bytes s, bytes t => some (decide (t < s))
  | list s, list t => anyAfter? s t
  | tuple s, tuple t => anyAfter? s t
  | set s, set t => some (decide (t.length < s.length) && amongAll t s)
  | complex _ _, _ => Option.none
  | _, complex _ _ => Option.none
  | a, b =>
    match a.number?, b.number? with
    | some (x, _), some (y, _) => some (y.less x)
    | _, _ => Option.none

/-- The first members that differ decide, and then the number of members. -/
def anyAfter? : List Value → List Value → Option Bool
  | [], _ => some false
  | _ :: _, [] => some true
  | a :: as, b :: bs => if same a b then anyAfter? as bs else after? a b

end

/-- The first of the greatest values. -/
def greatest? (best : Value) : List Value → Option Value
  | [] => some best
  | v :: vs => do if ← after? v best then greatest? v vs else greatest? best vs

/-- What a text, a sequence, a set or a dictionary is made of. -/
def members? : Value → Option (List Value)
  | text t => some (t.map fun c => text [c])
  | bytes bs => some (bs.map fun b => int b.toNat)
  | list vs | tuple vs | set vs => some vs
  | dict pairs => some (pairs.map Prod.fst)
  | _ => Option.none

end Collation.Value
