import Collation.Text

/-! Rule statements: one collation element each, and how it follows the element before it. -/

namespace Collation

/-- The first level on which an element differs from the one before it, if there is one. -/
inductive Relation where
  | primary
  | secondary
  | tertiary
  | same
  deriving DecidableEq, Repr

namespace Relation

def symbol : Relation → Char
  | primary => '<'
  | secondary => ';'
  | tertiary => ','
  | same => '='

def ofSymbol? (c : Char) : Option Relation :=
  [primary, secondary, tertiary, same].find? (·.symbol = c)

/-- A text that is no operator is taken for a relation that advances no level. -/
def ofText : Text → Relation
  | [c] => (ofSymbol? c).getD same
  | _ => same

theorem ofSymbol?_symbol (r : Relation) : ofSymbol? r.symbol = some r := by
  cases r <;> rfl

end Relation

/-- An element with the position of its first character or opening quote in the rule text. -/
structure Statement where
  relation : Relation
  element : Text
  position : Nat
  deriving DecidableEq, Repr

end Collation
