import Collation.Key.Basic

/-! The order of texts, one level at a time over the whole texts. -/

namespace Collation

namespace Word

/-- Blank words come before all others and are equal to each other. Of two words of which none is
blank, the weights have to decide. -/
def compareBlank (a b : Word) : Option Ordering :=
  match a.isBlank, b.isBlank with
  | true, true => some .eq
  | true, false => some .lt
  | false, true => some .gt
  | false, false => none

end Word

namespace Key

def compareLevel (a b : Key) (level : Strength) : Ordering :=
  if a.level level = b.level level then .eq
  else if a.level level < b.level level then .lt
  else .gt

/-- The first level that differs decides. -/
def compareLevels (a b : Key) : List Strength → Ordering
  | [] => .eq
  | level :: finer => (compareLevel a b level).then (compareLevels a b finer)

/-- Compares two keys up to a strength, whatever strengths they were made for. -/
def compare (s : Strength) (a b : Key) : Ordering :=
  match Word.compareBlank (some a.source) (some b.source) with
  | some o => o
  | none => compareLevels a b s.levels

end Key

namespace Tailoring

/-- Blank words are settled before any key is made. -/
def compare (t : Tailoring) (s : Strength) (a b : Word) : Ordering :=
  match Word.compareBlank a b with
  | some o => o
  | none => Key.compare s (t.key s a) (t.key s b)

end Tailoring

end Collation
