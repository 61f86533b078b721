import Collation.Number.Binary64
import Collation.Text

/-! Values of options and settings. -/

namespace Collation

/-- A value as a setting can write it. A set holds no two equal members and a dictionary no two
equal keys. -/
inductive Value where
  | none
  | ellipsis
  | bool (b : Bool)
  | int (n : Int)
  | float (x : Float)
  | complex (re im : Float)
  | text (t : Text)
  | bytes (bs : List UInt8)
  | list (vs : List Value)
  | tuple (vs : List Value)
  | set (vs : List Value)
  | dict (pairs : List (Value × Value))

namespace Value

instance : Inhabited Value := ⟨none⟩

/-- A real number, exact if it is whole. -/
inductive Real where
  | whole (n : Int)
  | fraction (x : Float)

/-- The real and the imaginary part of a number. A truth value counts as 0 or 1. -/
def number? : Value → Option (Real × Float)
  | bool b => some (.whole b.toInt, 0)
  | int n => some (.whole n, 0)
  | float x => some (.fraction x, 0)
  | complex re im => some (.fraction re, im)
  | _ => Option.none

/-- A whole number, which a truth value is as well. -/
def whole? : Value → Option Int
  | bool b => some b.toInt
  | int n => some n
  | _ => Option.none

def Real.same : Real → Real → Bool
  | .whole m, .whole n => m = n
  | .whole m, .fraction x | .fraction x, .whole m => Binary64.toInt? x = some m
  | .fraction x, .fraction y => x == y

mutual

/-- Numbers of all kinds are equal if their values are, and sets if their members are. -/
def same (a b : Value) : Bool :=
  match a, b with
  | none, none => true
  | ellipsis, ellipsis => true
  | text s, text t => s = t
  | bytes s, bytes t => s = t
  | list s, list t => sameAll s t
  | tuple s, tuple t => sameAll s t
  | set s, set t => s.length = t.length && amongAll s t
  | dict s, dict t => s.length = t.length && pairAmongAll s t
  | a, b =>
    match a.number?, b.number? with
    | some (x, i), some (y, j) => x.same y && i == j
    | _, _ => false

def sameAll : List Value → List Value → Bool
  | [], [] => true
  | a :: as, b :: bs => same a b && sameAll as bs
  | _, _ => false

def amongAll : List Value → List Value → Bool
  | [], _ => true
  | a :: as, bs => bs.any (same a) && amongAll as bs

def pairAmongAll : List (Value × Value) → List (Value × Value) → Bool
  | [], _ => true
  | (k, v) :: as, bs => bs.any (fun (l, w) => same k l && same v w) && pairAmongAll as bs

end

mutual

/-- What can be a member of a set or the key of a dictionary: nothing that could change. -/
def isFixed : Value → Bool
  | list _ => false
  | set _ => false
  | dict _ => false
  | tuple vs => areFixed vs
  | _ => true

def areFixed : List Value → Bool
  | [] => true
  | v :: vs => isFixed v && areFixed vs

end

/-- Not nothing, false, zero or empty. -/
def isTruthy : Value → Bool
  | none => false
  | ellipsis => true
  | bool b => b
  | int n => n ≠ 0
  | float x => x != 0
  | complex re im => re != 0 || im != 0
  | text t => !t.isEmpty
  | bytes bs => !bs.isEmpty
  | list vs => !vs.isEmpty
  | tuple vs => !vs.isEmpty
  | set vs => !vs.isEmpty
  | dict pairs => !pairs.isEmpty

def kindName : Value → Text
  | none => "NoneType"
  | ellipsis => "ellipsis"
  | bool _ => "bool"
  | int _ => "int"
  | float _ => "float"
  | complex _ _ => "complex"
  | text _ => "str"
  | bytes _ => "bytes"
  | list _ => "list"
  | tuple _ => "tuple"
  | set _ => "set"
  | dict _ => "dict"

/-- Adds a member unless an equal one is there. -/
def insertMember (vs : List Value) (v : Value) : List Value :=
  if vs.any (same v) then vs else vs ++ [v]

/-- Sets the value of a key, which keeps its place and its first spelling. -/
def insertPair (pairs : List (Value × Value)) (k v : Value) : List (Value × Value) :=
  if pairs.any (fun p => same k p.1) then
    pairs.map fun p => if same k p.1 then (p.1, v) else p
  else pairs ++ [(k, v)]

def setOf (vs : List Value) : Value :=
  set (vs.foldl insertMember [])

end Value

end Collation
