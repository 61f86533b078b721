import Collation.Literal.Node

/-! Reading tokens from the front. -/

namespace Collation.Literal

abbrev Reading := StateT (List Token) (Except Fault)

/-- What a part of an expression is read as. -/
inductive Goal where
  | expression
  /-- An expression that is no function and has no condition. -/
  | disjunction
  | inversion
  /-- An expression without comparisons. -/
  | operand
  /-- An expression with signs and powers only. -/
  | factor
  | target

/-- Reads a part, given how many rules are open around it. -/
abbrev Reader := Goal → Nat → Reading Node

def Token.isSymbol (s : Symbol) : Token → Bool
  | .symbol t => s = t
  | _ => false

def Token.isKeyword (k : Keyword) : Token → Bool
  | .keyword l => k = l
  | _ => false

def Token.isClosing (b : Bracket) : Token → Bool
  | .closing c => b = c
  | _ => false

def Token.isNewline : Token → Bool
  | .newline => true
  | _ => false

namespace Reading

def fail {α : Type} : Reading α :=
  throw .malformed

def next (p : Token → Bool) : Reading Bool := do
  return (← get).head?.any p

def take (p : Token → Bool) : Reading Bool := do
  match ← get with
  | t :: rest => if p t then set rest; return true else return false
  | [] => return false

/-- Takes the next token, which has to be of a kind. -/
def require (p : Token → Bool) : Reading Unit := do
  unless ← take p do fail

/-- Parts between commas up to a closing bracket, after the parts `found` before, the last one
first. A comma may follow the last part. -/
def partsUntil (b : Bracket) (part : Reading Node) : Nat → List Node → Reading (List Node)
  | 0, _ => fail
  | fuel + 1, found => do
    if ← take (·.isClosing b) then return found.reverse
    let n ← part
    if ← take (·.isSymbol .comma) then partsUntil b part fuel (n :: found)
    else
      require (·.isClosing b)
      return (n :: found).reverse

/-- Parts with a word between them. One part stands for itself. -/
def chain (k : Keyword) (part : Reading Node) : Nat → List Node → Reading Node
  | 0, _ => fail
  | fuel + 1, found => do
    let n ← part
    if ← take (·.isKeyword k) then chain k part fuel (n :: found)
    else return if found.isEmpty then n else .around (n :: found)

end Reading

end Collation.Literal
