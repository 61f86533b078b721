import Std.Data.HashMap

/-! Property lists of characters, packed into text: hexadecimal code points between blanks and line
ends. -/

namespace Collation.Unicode

/-- Characters in a row that share one value of a property. -/
structure Span where
  first : Nat
  last : Nat
  value : Nat
  deriving Inhabited

namespace Packed

def digit (c : Char) : Nat :=
  if c.isDigit then c.toNat - '0'.toNat else c.toNat - 'A'.toNat + 10

def hex (s : String) : Nat :=
  s.toList.foldl (fun n c => 16 * n + digit c) 0

def decimal (s : String) : Nat :=
  s.toList.foldl (fun n c => 10 * n + digit c) 0

def hexes (s : String) : List Nat :=
  (s.splitOn "+").map hex

/-- Reads `first`, `first-last` or either with `:value` after it. -/
def span (s : String) : Span :=
  let (codes, value) := match s.splitOn ":" with
    | [codes, value] => (codes, decimal value)
    | _ => (s, 0)
  match codes.splitOn "-" with
  | [first, last] => ⟨hex first, hex last, value⟩
  | _ => ⟨hex codes, hex codes, value⟩

def entries (s : String) : List String :=
  ((s.replace "\n" " ").splitOn " ").filter (!·.isEmpty)

/-- Reads spans in ascending order of their characters. -/
def spans (s : String) : Array Span :=
  ((entries s).map span).toArray

/-- Reads `from=to`, where both sides are characters joined by plus signs. -/
def rule (s : String) : List Nat × List Nat :=
  match s.splitOn "=" with
  | [source, target] => (hexes source, hexes target)
  | _ => ([], [])

def rules (s : String) : Std.HashMap (List Nat) (List Nat) :=
  Std.HashMap.ofList ((entries s).map rule)

end Packed

/-- The span that holds the character `code`, among `spans[lo]` up to before `spans[hi]`. -/
def Span.search (spans : Array Span) (code lo hi : Nat) : Option Span :=
  if lo < hi then
    let mid := (lo + hi) / 2
    match spans[mid]? with
    | none => none
    | some s =>
      if code < s.first then Span.search spans code lo mid
      else if s.last < code then Span.search spans code (mid + 1) hi
      else some s
  else none
termination_by hi - lo

def Span.find? (spans : Array Span) (code : Nat) : Option Span :=
  Span.search spans code 0 spans.size

end Collation.Unicode
