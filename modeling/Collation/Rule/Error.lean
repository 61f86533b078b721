import Collation.Rule.Statement

/-! What can be wrong with a rule text. -/

namespace Collation

namespace RuleError

inductive Cause where
  | empty
  | reserved (c : Char)
  | unclosedQuote
  | doubleOperator (operator previous : Relation)
  | leadingOperator (operator : Relation)
  | trailingOperator (operator : Relation)
  | duplicate (element : Text) (earlier : Nat)
  deriving DecidableEq, Repr

def Cause.message : Cause → Text
  | .empty => "Collation rules are empty."
  | .reserved c => "Reserved character \"" ++ [c] ++ "\" must be quoted."
  | .unclosedQuote => "Quoted literal is never closed."
  | .doubleOperator operator previous =>
    "Operator \"" ++ [operator.symbol] ++ "\" follows \"" ++ [previous.symbol] ++
      "\" with no element between them."
  | .leadingOperator operator =>
    "Operator \"" ++ [operator.symbol] ++ "\" has no element before it."
  | .trailingOperator operator =>
    "Operator \"" ++ [operator.symbol] ++ "\" has no element after it."
  | .duplicate element earlier =>
    '"' :: element ++ "\" was already declared at position " ++ digits earlier ++ "."

end RuleError

/-- A fault, and the position of the character that it blames. -/
structure RuleError where
  cause : RuleError.Cause
  position : Nat
  deriving DecidableEq, Repr

namespace RuleError

/-- A message tells its position unless that is negative. -/
def located (message : Text) (position : Int) : Text :=
  if position < 0 then message else message ++ " (at position " ++ digits position ++ ")"

def message (e : RuleError) : Text :=
  located e.cause.message e.position

end RuleError

end Collation
