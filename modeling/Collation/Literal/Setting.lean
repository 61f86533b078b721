import Collation.Literal.Expression

/-! Settings, which are literals where they can be read as such and texts otherwise. -/

namespace Collation.Literal

/-- Why a setting cannot be taken even as a text. -/
inductive SettingFault where
  | tooNested
  | tooHigh
  | notFixed
  | tooLarge
  | surrogates
  deriving DecidableEq

/-- The value of a setting, which may be indented. A text that is no literal is its own value. -/
def setting (t : Text) : Except SettingFault Value :=
  match (node (t.dropWhile fun c => c = ' ' || c = '\t')).bind Node.value with
  | .ok v => .ok v
  | .error .malformed | .error .notLiteral => .ok (.text t)
  | .error .tooNested => .error .tooNested
  | .error .tooHigh => .error .tooHigh
  | .error .notFixed => .error .notFixed
  | .error .tooLarge => .error .tooLarge
  | .error .surrogates => .error .surrogates

end Collation.Literal
