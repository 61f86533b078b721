import Collation.Weight

/-! Weight tables: the declared collation elements, in order, with their weights. -/

namespace Collation

/-- A text that collates as one unit, with its weight. -/
structure Element where
  text : Text
  weight : Weight
  deriving DecidableEq, Repr

/-- Elements with pairwise different texts, in the order of their declaration. -/
structure Table where
  elements : List Element
  nodup : (elements.map Element.text).Nodup

namespace Table

variable (t : Table)

def empty : Table :=
  ⟨[], by simp⟩

def declares (text : Text) : Bool :=
  t.elements.any (·.text = text)

def weight? (text : Text) : Option Weight :=
  (t.elements.find? (·.text = text)).map Element.weight

def size : Nat :=
  t.elements.length

/-- Gives an element of the table a new weight. -/
def reweigh (text : Text) (weight : Weight) (e : Element) : Element :=
  if e.text = text then ⟨text, weight⟩ else e

@[simp] theorem reweigh_text (text : Text) (weight : Weight) (e : Element) :
    (reweigh text weight e).text = e.text := by
  unfold reweigh
  split <;> simp_all

/-- Declares a text. One that is declared already keeps its place and takes the new weight. -/
def declare (text : Text) (weight : Weight) : Table :=
  if h : t.declares text then
    ⟨t.elements.map (reweigh text weight), by
      have : Element.text ∘ reweigh text weight = Element.text := funext fun e => by simp
      simpa [this] using t.nodup⟩
  else
    ⟨t.elements ++ [⟨text, weight⟩], by
      have hnew : ∀ e ∈ t.elements, e.text ≠ text := by simpa [declares] using h
      simp only [List.map_append, List.map_cons, List.map_nil, List.nodup_append, t.nodup, true_and]
      simpa using hnew⟩

def ofElements (es : List Element) : Table :=
  es.foldl (fun t e => t.declare e.text e.weight) empty

/-- The elements of statements, each with the weight in effect once its relation is applied. -/
def weighed (w : Weight) : List Statement → List Element
  | [] => []
  | s :: rest => ⟨s.element, w.next s.relation⟩ :: weighed (w.next s.relation) rest

def ofStatements (ss : List Statement) : Table :=
  ofElements (weighed Weight.beforeFirst ss)

/-- The highest primary rank, or -1 for an empty table. -/
def maxPrimary : Int :=
  ((t.elements.map (·.weight.primary)).max?).getD (-1)

/-- Characters that start no element come after every declared primary group, by code point. -/
def fallback (c : Char) : Weight :=
  ⟨t.maxPrimary + 1 + c.toNat, 0, 0⟩

/-- Elements that share one weight. -/
structure Group where
  weight : Weight
  members : List Text
  deriving DecidableEq, Repr

def weights : List Weight :=
  (t.elements.map Element.weight).eraseDups

def group (w : Weight) : Group :=
  ⟨w, (t.elements.filter (·.weight = w)).map Element.text⟩

/-- All groups by weight, their members in the order of declaration. -/
def groups : List Group :=
  (t.weights.mergeSort Weight.le).map t.group

/-- The same elements with the same weights, in any order. -/
def sameWeights (u : Table) : Bool :=
  t.size = u.size && t.elements.all fun e => u.weight? e.text = some e.weight

def summary : Text :=
  "WeightTable(" ++ digits t.size ++ " elements, " ++ digits (t.maxPrimary + 1) ++
    " primary groups)"

end Table

end Collation
