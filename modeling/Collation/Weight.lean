import Collation.Rule.Statement

/-! Weights of collation elements on three levels. -/

namespace Collation

/-- A base letter, an accent and a case, each by rank: lower ranks sort first. -/
structure Weight where
  primary : Int
  secondary : Int
  tertiary : Int
  deriving DecidableEq, Repr

namespace Weight

/-- The weight in effect before the first statement. -/
def beforeFirst : Weight :=
  ⟨-1, 0, 0⟩

/-- A relation advances its own level and resets the finer ones. -/
def next (w : Weight) : Relation → Weight
  | .primary => ⟨w.primary + 1, 0, 0⟩
  | .secondary => ⟨w.primary, w.secondary + 1, 0⟩
  | .tertiary => ⟨w.primary, w.secondary, w.tertiary + 1⟩
  | .same => w

def toList (w : Weight) : List Int :=
  [w.primary, w.secondary, w.tertiary]

/-- The order of weights by primary, then secondary, then tertiary rank. -/
def less (a b : Weight) : Bool :=
  decide (a.toList < b.toList)

def le (a b : Weight) : Bool :=
  !b.less a

end Weight

end Collation
