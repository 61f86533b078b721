import Collation.Literal.Reading

/-! Parts of expressions that stand between brackets. `read` reads the expressions in them, and
`fuel` is greater than the number of tokens left. A level is the number of rules that are open. -/

namespace Collation.Literal.Reading

variable (read : Reader) (fuel : Nat)

def nextBinds : Reading Bool := do
  match ← get with
  | .name _ :: .symbol .bind :: _ => return true
  | _ => return false

def named (level : Nat) : Reading Node := do
  if ← nextBinds then
    modify (·.drop 2)
    return .around [.other 1, ← read .expression (level + 1)]
  else
    let n ← read .expression level
    if ← next (·.isSymbol .bind) then fail else return n

def starred (goal : Goal) (level : Nat) : Reading Node := do
  require (·.isSymbol .star)
  return .around [← read goal level]

def member (level : Nat) : Reading Node := do
  if ← next (·.isSymbol .star) then starred read .operand level else named read level

def nextIsLoop : Reading Bool :=
  next fun t => t.isKeyword .for_ || t.isKeyword .async

/-- Conditions, after the parts of a loop that stand before them. -/
def conditions (level : Nat) : Nat → List Node → Reading (List Node)
  | 0, _ => fail
  | fuel + 1, found => do
    if ← take (·.isKeyword .if_) then
      conditions level fuel ((← read .disjunction level) :: found)
    else return found

def targets (level : Nat) : Nat → List Node → Reading Node
  | 0, _ => fail
  | fuel + 1, found => do
    let n ← read .target (level + 1)
    if !(← take (·.isSymbol .comma)) then
      return if found.isEmpty then n else .around (n :: found)
    else if ← next (·.isKeyword .in_) then return .around (n :: found)
    else targets level fuel (n :: found)

def loops (level : Nat) : Nat → List Node → Reading Node
  | 0, _ => fail
  | fuel + 1, found => do
    let _ ← take (·.isKeyword .async)
    require (·.isKeyword .for_)
    let target ← targets read level fuel []
    require (·.isKeyword .in_)
    let source ← read .disjunction level
    let parts ← conditions read level fuel [source, target]
    let found := .around parts :: found
    if ← nextIsLoop then loops level fuel found else return .around found

def loopsUntil (b : Bracket) (level : Nat) (first : Node) : Reading Node := do
  let n ← loops read level fuel [first]
  require (·.isClosing b)
  return n

/-- The parts up to a closing bracket, of which the first one is read. -/
def restUntil (b : Bracket) (part : Reading Node) (first : Node) : Reading (List Node) := do
  if ← take (·.isSymbol .comma) then partsUntil b part fuel [first]
  else
    require (·.isClosing b)
    return [first]

def yielded (level : Nat) : Reading Node := do
  if ← take (·.isKeyword .from_) then
    let n ← read .expression (level + 5)
    require (·.isClosing .round)
    return .around [n]
  else if ← take (·.isClosing .round) then return .around []
  else
    let part : Reading Node := do
      if ← next (·.isSymbol .star) then starred read .operand (level + 7)
      else read .expression (level + 7)
    match ← restUntil fuel .round part (← part) with
    | [n] => return .around [n]
    | nodes => return .around [.around nodes]

/-- What stands in round brackets: a tuple, a group, loops, or what a generator gives. -/
def round (level : Nat) : Reading Node := do
  if ← take (·.isClosing .round) then return .tuple []
  else if ← take (·.isKeyword .yield) then yielded read fuel level
  else
    let isStarred ← next (·.isSymbol .star)
    let first ← member read (level + 6)
    if ← next (·.isSymbol .comma) then
      return .tuple (← restUntil fuel .round (member read (level + 6)) first)
    else if isStarred then fail
    else if ← nextIsLoop then loopsUntil read fuel .round (level + 6) first
    else
      require (·.isClosing .round)
      return first

def square (level : Nat) : Reading Node := do
  if ← take (·.isClosing .square) then return .list []
  else
    let isStarred ← next (·.isSymbol .star)
    let first ← member read (level + 7)
    if !isStarred && (← nextIsLoop) then loopsUntil read fuel .square (level + 6) first
    else return .list (← restUntil fuel .square (member read (level + 7)) first)

/-- A pair of a dictionary, or two stars and the dictionary whose pairs are added. -/
def pair (level : Nat) : Reading (Node × Node) := do
  if ← take (·.isSymbol .twoStars) then return (.other 0, ← read .operand (level + 6))
  else
    let key ← read .expression (level + 7)
    require (·.isSymbol .colon)
    return (key, ← read .expression (level + 7))

/-- Pairs up to the closing bracket, after the pairs `found` before, the last one first. -/
def pairs (level : Nat) : Nat → List (Node × Node) → Reading Node
  | 0, _ => fail
  | fuel + 1, found => do
    if ← take (·.isClosing .curly) then return .dict found.reverse
    let p ← pair read level
    if ← take (·.isSymbol .comma) then pairs level fuel (p :: found)
    else
      require (·.isClosing .curly)
      return .dict (p :: found).reverse

/-- What stands in curly brackets: a dictionary, a set, or loops that fill one of them. -/
def curly (level : Nat) : Reading Node := do
  let isStarred ← next (·.isSymbol .star)
  let binds ← nextBinds
  if ← next fun t => t.isClosing .curly || t.isSymbol .twoStars then pairs read level fuel []
  else
    let first ← member read (level + 7)
    if !isStarred && !binds && (← take (·.isSymbol .colon)) then
      let second ← read .expression (level + 7)
      if ← nextIsLoop then loopsUntil read fuel .curly (level + 6) (.around [first, second])
      else if ← take (·.isSymbol .comma) then pairs read level fuel [(first, second)]
      else
        require (·.isClosing .curly)
        return .dict [(first, second)]
    else if !isStarred && (← nextIsLoop) then loopsUntil read fuel .curly (level + 6) first
    else return .set (← restUntil fuel .curly (member read (level + 7)) first)

/-- What a subscript selects: a member, or a range with up to three numbers. -/
def selection (level : Nat) : Reading Node := do
  if ← next (·.isSymbol .star) then starred read .expression level
  else
    let binds ← nextBinds
    let start ← if ← next (·.isSymbol .colon) then pure [] else pure [← named read level]
    if !binds && (← take (·.isSymbol .colon)) then
      let stop ← bound
      let step ← if ← take (·.isSymbol .colon) then bound else pure []
      return .around (start ++ stop ++ step)
    else return (start.head?.getD (.other 0))
where
  bound : Reading (List Node) := do
    if ← next fun t => t.isSymbol .colon || t.isSymbol .comma || t.isClosing .square then
      return []
    else return [← read .expression level]

def subscript (level : Nat) (n : Node) : Reading Node := do
  match ← restUntil fuel .square (selection read (level + 2)) (← selection read (level + 2)) with
  | [part] => return .around [n, part]
  | parts => return .around [n, .around parts]

/-- The arguments that can still come: any, or none without a name, or only those with a name or
with two stars. -/
inductive Arguments where
  | any
  | starred
  | named
  deriving DecidableEq

/-- One argument, and which can come after it. -/
def argument (level : Nat) (allowed : Arguments) : Reading (Node × Arguments) := do
  match ← get with
  | .symbol .twoStars :: rest =>
    set rest
    return (.around [← read .expression (level + 5)], .named)
  | .symbol .star :: _ =>
    if allowed = .named then fail else return (← starred read .expression (level + 5), allowed)
  | .name _ :: .symbol .assign :: rest =>
    set rest
    let n ← read .expression (level + 5)
    return (.around [n], if allowed = .any then .starred else allowed)
  | _ => if allowed = .any then return (← named read (level + 2), .any) else fail

/-- Arguments up to the closing bracket. Loops stand without brackets of their own if they are the
only argument. -/
def arguments (level : Nat) : Nat → Arguments → List Node → Reading (List Node)
  | 0, _, _ => fail
  | fuel + 1, allowed, found => do
    if ← take (·.isClosing .round) then return found
    let isStarred ← next fun t => t.isSymbol .star || t.isSymbol .twoStars
    let (n, allowed) ← argument read level allowed
    if found.isEmpty && allowed = .any && !isStarred && (← nextIsLoop) then
      return [← loopsUntil read fuel .round (level + 4) n]
    else if ← take (·.isSymbol .comma) then arguments level fuel allowed (n :: found)
    else
      require (·.isClosing .round)
      return n :: found

/-- A call after its bracket. The call of `set` without arguments makes an empty set. -/
def call (level : Nat) (n : Node) : Reading Node := do
  match n, ← arguments read level fuel .any [] with
  | .name ['s', 'e', 't'], [] => return .set []
  | n, parts => return .around (n :: parts)

end Collation.Literal.Reading
