import Collation.Rule.Token
import Collation.Unicode.Normalization

/-! Rule texts read as statements. An operand is judged only when the operator after it, or the end,
is reached. -/

namespace Collation.Rule

/-- What is known between two tokens: the statements so far, the last one first, and the operator
that waits for its element. -/
structure Progress where
  statements : List Statement
  pending : Option (Relation × Nat)

def Progress.start : Progress :=
  ⟨[], none⟩

/-- An element without an operator is the first one, and opens the first primary group. -/
def Progress.step (form : Option Form) (p : Progress) : Token → Except RuleError Progress
  | .operator relation position =>
    match p.pending with
    | some (previous, _) => .error ⟨.doubleOperator relation previous, position⟩
    | none =>
      if p.statements.isEmpty && relation ≠ .primary then
        .error ⟨.leadingOperator relation, position⟩
      else .ok ⟨p.statements, some (relation, position)⟩
  | .operand text position =>
    let element := normalize form text
    match p.statements.find? (·.element = element) with
    | some earlier => .error ⟨.duplicate element earlier.position, position⟩
    | none =>
      let relation := (p.pending.map Prod.fst).getD .primary
      .ok ⟨⟨relation, element, position⟩ :: p.statements, none⟩

def Progress.finish (p : Progress) : Except RuleError (List Statement) :=
  match p.pending with
  | some (relation, position) => .error ⟨.trailingOperator relation, position⟩
  | none => .ok p.statements.reverse

def judge (form : Option Form) (s : Scan) : Except RuleError (List Statement) := do
  let p ← s.tokens.foldlM (Progress.step form) Progress.start
  match s.fault with
  | some e => .error e
  | none => p.finish

/-- The statements of a rule text, in the order of declaration. -/
def parse (form : Option Form) (text : Text) : Except RuleError (List Statement) :=
  if Text.isBlank text then .error ⟨.empty, 0⟩ else judge form (scan text)

end Collation.Rule
