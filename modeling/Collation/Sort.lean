import Collation.Order

/-! Sorting words by their keys. -/

namespace Collation

/-- A word with its key, which is made once, and its place in the input. -/
structure Entry where
  word : Word
  key : Key
  place : Nat

/-- By key, and by place where the keys are equal. -/
def Entry.le (e f : Entry) : Bool :=
  e.key.less f.key || (e.key.same f.key && e.place ≤ f.place)

/-- Words side by side with their keys, numbered in the order of the input. -/
def entries (ws : List Word) (keys : List Key) : List Entry :=
  (ws.zip keys).zipIdx.map fun ((w, k), i) => ⟨w, k, i⟩

/-- The words in the order of their keys. Words with equal keys keep the order of the input. -/
def arrange (ws : List Word) (keys : List Key) : List Word :=
  ((entries ws keys).mergeSort Entry.le).map Entry.word

/-- The words in collation order. Words that collate as equal keep the order of the input. -/
def Tailoring.sort (t : Tailoring) (s : Strength) (ws : List Word) : List Word :=
  arrange ws (ws.map (t.key s))

end Collation
