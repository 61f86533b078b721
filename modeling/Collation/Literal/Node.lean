import Collation.Literal.Token
import Collation.Unicode.Normalization

/-! Expressions, as far as they can be literals, and the values that they stand for. -/

namespace Collation.Literal

/-- An expression, as far as it can stand for a value. -/
inductive Node where
  | constant (v : Value)
  | name (t : Text)
  | signed (isMinus : Bool) (operand : Node)
  | sum (left : Node) (isMinus : Bool) (right : Node)
  | tuple (nodes : List Node)
  | list (nodes : List Node)
  | set (nodes : List Node)
  | dict (pairs : List (Node × Node))
  /-- An expression of any other kind, which stands for no value, by its height. -/
  | other (height : Nat)

/-- Why a text has no value: it is no expression, or one that is nested too deeply to be read or
built, or no literal; or it has a member or a key that can change, or holds a number beyond all
floating-point ones. What a text with surrogates has for a value is left open. -/
inductive Fault where
  | malformed
  | tooNested
  | tooHigh
  | notLiteral
  | notFixed
  | tooLarge
  | surrogates
  deriving DecidableEq

namespace Node

mutual

/-- The number of expressions that stand in one another, from the outermost to the innermost. -/
def height : Node → Nat
  | constant _ => 1
  | name _ => 1
  | signed _ operand => operand.height + 1
  | sum left _ right => max left.height right.height + 1
  | tuple nodes => heights 0 nodes + 1
  | list nodes => heights 0 nodes + 1
  | set nodes => heights 1 nodes + 1
  | dict pairs => pairHeights 0 pairs + 1
  | other height => height

def heights (found : Nat) : List Node → Nat
  | [] => found
  | n :: rest => heights (max found n.height) rest

def pairHeights (found : Nat) : List (Node × Node) → Nat
  | [] => found
  | (k, v) :: rest => pairHeights (max found (max k.height v.height)) rest

end

def around (parts : List Node) : Node :=
  other (heights 0 parts + 1)

def isConstant : Node → Bool
  | constant _ => true
  | _ => false

def withSign (isMinus : Bool) (n : Node) : Node :=
  if n.isConstant then signed isMinus n else around [n]

/-- A sum or a difference. It is kept if it may be a complex number. -/
def plus (left : Node) (isMinus : Bool) (right : Node) : Node :=
  let isTerm := match left with
    | constant _ | signed _ _ => true
    | _ => false
  if isTerm && right.isConstant then sum left isMinus right else around [left, right]

def ofName (t : Text) : Node :=
  name (Form.nfkc.normalize t)

def negate (v : Value) : Except Fault Value :=
  match v with
  | .int n => .ok (.int (-n))
  | .float x => .ok (.float (-x))
  | .complex re im => .ok (.complex (-re) (-im))
  | _ => .error .notLiteral

/-- Numbers other than truth values. -/
def number : Node → Except Fault Value
  | constant (.int n) => .ok (.int n)
  | constant (.float x) => .ok (.float x)
  | constant (.complex re im) => .ok (.complex re im)
  | _ => .error .notLiteral

def signedNumber : Node → Except Fault Value
  | signed isMinus operand => do
    let v ← number operand
    if isMinus then negate v else .ok v
  | n => number n

/-- A real number, and a complex number added to it or taken from it. -/
def complexSum (left : Value) (isMinus : Bool) (right : Value) : Except Fault Value :=
  match left, right with
  | .int n, .complex re im =>
    match Binary64.ofInt? n with
    | none => .error .tooLarge
    | some x => .ok (add x re im)
  | .float x, .complex re im => .ok (add x re im)
  | _, _ => .error .notLiteral
where
  add (x re im : Float) : Value :=
    if isMinus then .complex (x - re) (0 - im) else .complex (x + re) (0 + im)

mutual

/-- Parts are evaluated from left to right, and the first fault counts. -/
def value : Node → Except Fault Value
  | constant v => .ok v
  | name _ => .error .notLiteral
  | signed isMinus operand => signedNumber (.signed isMinus operand)
  | sum left isMinus right => do complexSum (← signedNumber left) isMinus (← number right)
  | tuple nodes => (values [] nodes).map .tuple
  | list nodes => (values [] nodes).map .list
  | set nodes => (members [] nodes).map .set
  | dict pairs => (pairValues [] pairs).map .dict
  | other _ => .error .notLiteral

/-- The values of parts, after those `found` before, the last one first. -/
def values (found : List Value) : List Node → Except Fault (List Value)
  | [] => .ok found.reverse
  | n :: rest =>
    match value n with
    | .ok v => values (v :: found) rest
    | .error e => .error e

def members (found : List Value) : List Node → Except Fault (List Value)
  | [] => .ok found
  | n :: rest =>
    match value n with
    | .ok v => if v.isFixed then members (Value.insertMember found v) rest else .error .notFixed
    | .error e => .error e

def pairValues (found : List (Value × Value)) :
    List (Node × Node) → Except Fault (List (Value × Value))
  | [] => .ok found
  | (k, v) :: rest =>
    match value k, value v with
    | .error e, _ | .ok _, .error e => .error e
    | .ok key, .ok v =>
      if key.isFixed then pairValues (Value.insertPair found key v) rest else .error .notFixed

end

end Node

end Collation.Literal
