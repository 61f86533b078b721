import Collation.Table.Basic

/-! Texts cut into collation elements, the longest declared one at each place. -/

namespace Collation.Table

variable (t : Table)

def longer (e : Element) (best : Option Element) : Option Element :=
  match best with
  | some b => if b.text.length < e.text.length then some e else some b
  | none => some e

/-- The longest declared element that a text starts with. -/
def longest? (text : Text) : Option Element :=
  (t.elements.filter (·.text.isPrefixOf text)).foldr longer none

/-- The element at the start of a text: the longest declared one, or else the first character with
its fallback weight. A text that is at its end can start with the empty element only. -/
def first? (text : Text) : Option Element :=
  (t.longest? text).or (text.head?.map fun c => ⟨[c], t.fallback c⟩)

/-- Cuts a text into elements. Where only an empty element matches, no progress is possible and the
cutting stops. -/
def segment (text : Text) : List Element :=
  match t.first? text with
  | none => []
  | some e =>
    if _h : 0 < e.text.length ∧ 0 < text.length then
      e :: segment (text.drop e.text.length)
    else []
termination_by text.length
decreasing_by simp; omega

/-- The weights of the elements of a text. -/
def weigh (text : Text) : List Weight :=
  (t.segment text).map Element.weight

end Collation.Table
