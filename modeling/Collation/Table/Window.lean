import Collation.Table.Segment

/-! Elements at a place in a text, where the place may be counted from the end. -/

namespace Collation

namespace Text

/-- A place within a text of length `length`. Negative places count from the end. -/
def place (length : Nat) (i : Int) : Nat :=
  min length (if i < 0 then i + length else i).toNat

/-- The part of a text between two places. -/
def slice (start stop : Int) (t : Text) : Text :=
  (t.take (place t.length stop)).drop (place t.length start)

/-- The character at a place, if there is one. -/
def at? (i : Int) (t : Text) : Option Char :=
  if i < 0 then if -i ≤ t.length then t[(i + t.length).toNat]? else none
  else t[i.toNat]?

end Text

namespace Table

variable (t : Table)

/-- The lengths of the elements, the longest first. -/
def lengths : List Nat :=
  ((t.elements.map (·.text.length)).eraseDups).mergeSort fun a b => b ≤ a

/-- The weight and the length of the longest declared element at a place, or those of the single
character there. -/
def matchAt? (text : Text) (start : Int) : Option (Weight × Nat) :=
  let fitting := t.lengths.filter fun (n : Nat) => decide (Int.ofNat n ≤ text.length - start)
  let found := fitting.findSome? fun (n : Nat) =>
    (t.weight? (Text.slice start (start + n) text)).map fun w => (w, n)
  found.or ((Text.at? start text).map fun c => (t.fallback c, 1))

end Table

end Collation
