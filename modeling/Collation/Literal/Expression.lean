import Collation.Literal.Function
import Collation.Literal.Line
import Collation.Literal.Part
import Collation.Literal.Template

/-! Expressions, from the innermost to the outermost. -/

namespace Collation.Literal

def maxLevel : Nat := 6000

/-- The height of the highest expression that is built. -/
def maxHeight : Nat := 2972

namespace Reading

variable (read : Reader) (fuel : Nat)

/-- The expressions of a template, each in brackets of its own, and the height of them all. -/
def templateHeight (found : Nat) : List (Text × Nat) → Except Fault Nat
  | [] => .ok (max 1 found)
  | (source, formats) :: rest =>
    match (read .expression 4).run (tokens ('(' :: source ++ [')'])) with
    | .ok (n, _) => templateHeight (max found (n.height + 2 * formats + 2)) rest
    | .error e => .error e

def quotedNode : Quoted → Except Fault Node
  | .text (some t) => .ok (.constant (.text t))
  | .text none => .error .surrogates
  | .bytes bs => .ok (.constant (.bytes bs))
  | .template isRaw body =>
    match Template.sources? isRaw body with
    | some sources => (templateHeight read 0 sources).map .other
    | none => .error .malformed

/-- Adjacent text literals as one. Texts and bytes do not mix. -/
def joinQuoted (a b : Node) : Option Node :=
  match a, b with
  | .constant (.text s), .constant (.text t) => some (.constant (.text (s ++ t)))
  | .constant (.bytes s), .constant (.bytes t) => some (.constant (.bytes (s ++ t)))
  | .constant (.bytes _), _ => none
  | _, .constant (.bytes _) => none
  | a, b => some (.other (max a.height b.height))

/-- Text literals that stand side by side, after those that `found` stands for. -/
def quotedRun (found : Node) : Reading Node
  | .quoted q :: rest =>
    match quotedNode read q with
    | .error e => .error e
    | .ok n =>
      match joinQuoted found n with
      | some n => quotedRun n rest
      | none => .error .malformed
  | ts => .ok (found, ts)

/-- What no operator divides. -/
def atom (level : Nat) : Reading Node := do
  if maxLevel < level then throw .tooNested
  match ← get with
  | [] => fail
  | t :: rest =>
    set rest
    match t with
    | .number v => return .constant v
    | .quoted q =>
      if maxLevel < level + 2 then throw .tooNested
      quotedRun read (← quotedNode read q)
    | .name t => return .ofName t
    | .keyword .none => return .constant .none
    | .keyword .true => return .constant (.bool true)
    | .keyword .false => return .constant (.bool false)
    | .symbol .ellipsis => return .constant .ellipsis
    | .opening .round => round read fuel level
    | .opening .square => square read fuel level
    | .opening .curly => curly read fuel level
    | _ => fail

inductive Trailer where
  | attribute
  | subscript
  | call

def trailers (level : Nat) : Nat → Node → Option Trailer → Reading (Node × Option Trailer)
  | 0, _, _ => fail
  | fuel + 1, n, last => do
    match ← get with
    | .symbol .dot :: .name _ :: rest =>
      set rest
      trailers level fuel (.around [n]) (some .attribute)
    | .opening .square :: rest =>
      set rest
      trailers level fuel (← subscript read fuel level n) (some .subscript)
    | .opening .round :: rest =>
      set rest
      trailers level fuel (← call read fuel level n) (some .call)
    | _ => return (n, last)

def primary (level : Nat) : Reading (Node × Option Trailer) := do
  trailers read level fuel (← atom read fuel level) none

/-- Signs, and a power. The exponent may have signs. -/
def factor (level : Nat) : Reading Node := do
  match ← get with
  | .symbol .plus :: rest =>
    set rest
    return .withSign false (← read .factor (level + 1))
  | .symbol .minus :: rest =>
    set rest
    return .withSign true (← read .factor (level + 1))
  | .symbol .tilde :: rest =>
    set rest
    return .around [← read .factor (level + 1)]
  | _ =>
    let isAwaited ← take (·.isKeyword .await)
    let (n, _) ← primary read fuel (level + 5)
    let n := if isAwaited then .around [n] else n
    if ← take (·.isSymbol .twoStars) then return .around [n, ← read .factor (level + 2)]
    else return n

/-- How loosely an operator binds. Those that bind alike are read from left to right. -/
def looseness : Symbol → Nat
  | .star | .slash | .twoSlashes | .percent | .at_ => 1
  | .plus | .minus => 2
  | .leftShift | .rightShift => 3
  | .ampersand => 4
  | .caret => 5
  | .bar => 6
  | _ => 0

def combine (left : Node) (s : Symbol) (right : Node) : Node :=
  match s with
  | .plus => .plus left false right
  | .minus => .plus left true right
  | _ => .around [left, right]

def rightSides (rank : Nat) (part : Reading Node) : Nat → Node → Reading Node
  | 0, _ => fail
  | fuel + 1, left => do
    match ← get with
    | .symbol s :: rest =>
      if looseness s = rank then
        set rest
        rightSides rank part fuel (combine left s (← part))
      else return left
    | _ => return left

/-- An expression whose operators bind at least as tightly as those of a rank. -/
def arithmetic (level : Nat) : Nat → Reading Node
  | 0 => factor read fuel level
  | rank + 1 => do
    rightSides (rank + 1) (arithmetic level rank) fuel (← arithmetic level rank)

def operand (level : Nat) : Reading Node :=
  arithmetic read fuel (level + 12) 6

def takeComparison : Reading Bool := do
  match ← get with
  | .keyword .not :: .keyword .in_ :: rest | .keyword .is :: .keyword .not :: rest
  | .keyword .in_ :: rest | .keyword .is :: rest =>
    set rest
    return true
  | .symbol s :: rest =>
    if s = .less || s = .greater || s = .atMost || s = .atLeast || s = .equal || s = .unequal then
      set rest
      return true
    else return false
  | _ => return false

def comparison (level : Nat) : Nat → List Node → Reading Node
  | 0, _ => fail
  | fuel' + 1, found => do
    let n ← operand read fuel (level + 1)
    if ← takeComparison then comparison level fuel' (n :: found)
    else return if found.isEmpty then n else .around (n :: found)

def inversion (level : Nat) : Reading Node := do
  if ← take (·.isKeyword .not) then return .around [← read .inversion (level + 1)]
  else comparison read fuel (level + 1) fuel []

def disjunction (level : Nat) : Reading Node :=
  chain .or (chain .and (inversion read fuel (level + 2)) fuel []) fuel []

def expression (level : Nat) : Reading Node := do
  if ← take (·.isKeyword .lambda) then function read fuel level
  else
    let n ← disjunction read fuel (level + 1)
    if ← take (·.isKeyword .if_) then
      let condition ← disjunction read fuel (level + 1)
      require (·.isKeyword .else_)
      return .around [condition, n, ← read .expression (level + 1)]
    else return n

/-- Targets up to a closing bracket, and whether there is a comma between or behind them. -/
def targetsUntil (b : Bracket) (level : Nat) : Nat → Bool → Reading Bool
  | 0, _ => fail
  | fuel + 1, found => do
    if ← take (·.isClosing b) then return found
    let _ ← read .target level
    if ← take (·.isSymbol .comma) then targetsUntil b level fuel true
    else
      require (·.isClosing b)
      return found

/-- What a loop can set: a name, an attribute, what a subscript selects, or several targets in
brackets. -/
def target (level : Nat) : Reading Node := do
  if ← take (·.isSymbol .star) then
    if ← next (·.isSymbol .star) then fail else return .around [← read .target level]
  let start ← get
  let (n, last) ← primary read fuel (level + 4)
  match last, start with
  | some .attribute, _ | some .subscript, _ | none, .name _ :: _ => return n
  | none, .opening .round :: rest =>
    set rest
    let isStarred ← next (·.isSymbol .star)
    let isEmpty ← next (·.isClosing .round)
    let isTuple ← targetsUntil read .round (level + 3) fuel false
    if isStarred && !isTuple && !isEmpty then fail else return n
  | none, .opening .square :: rest =>
    set rest
    let _ ← targetsUntil read .square (level + 3) fuel false
    return n
  | _, _ => fail

end Reading

/-- Reads a part with at most `fuel` parts in one another. -/
def readPart : Nat → Reader
  | 0, _, _ => Reading.fail
  | fuel + 1, goal, level =>
    match goal with
    | .expression => Reading.expression (readPart fuel) fuel level
    | .disjunction => Reading.disjunction (readPart fuel) fuel level
    | .inversion => Reading.inversion (readPart fuel) fuel level
    | .operand => Reading.operand (readPart fuel) fuel level
    | .factor => Reading.factor (readPart fuel) fuel level
    | .target => Reading.target (readPart fuel) fuel level

/-- Expressions between commas up to the end of a line, after those `found` before, the last one
first. More than one, or a comma at the end, make a tuple. -/
def readLine (part : Reading Node) : Nat → List Node → Reading Node
  | 0, _ => Reading.fail
  | fuel + 1, found => do
    if !found.isEmpty && (← get).head?.all Token.isNewline then return .tuple found.reverse
    let n ← part
    if ← Reading.take (·.isSymbol .comma) then readLine part fuel (n :: found)
    else return if found.isEmpty then n else .tuple (n :: found).reverse

/-- The expression of a whole text. Line ends may follow it. -/
def node (t : Text) : Except Fault Node :=
  let fuel := t.length + 2
  match (readLine (readPart fuel .expression 3) fuel []).run (tokens t) with
  | .error e => .error e
  | .ok (n, rest) =>
    if !rest.all Token.isNewline then .error .malformed
    else if maxHeight < n.height then .error .tooHigh
    else .ok n

end Collation.Literal
