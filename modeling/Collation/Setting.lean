import Collation.Number.Numeral
import Collation.Failure.Basic
import Collation.Rule.Parser
import Collation.Strength
import Collation.Unicode.LowerCase

/-! Strengths and normalization forms as settings name them. -/

namespace Collation

namespace Setting

/-- Reads an integer in a base. A fault shows `shown`, which stands for the numeral. -/
def readIntegerIn (base : Nat) (shown : Value) (t : Text) : Except Failure Int :=
  match Numeral.integerIn base t with
  | .ok n => .ok n
  | .error .malformed => .error (.integer base shown)
  | .error (.tooLong count) => .error (.longInteger count)

def readInteger (t : Text) : Except Failure Int :=
  readIntegerIn 10 (.text t) t

end Setting

namespace Strength

/-- A strength by its number. Nothing but a whole number is one. -/
def ofValue (v : Value) : Except Failure Strength :=
  let number? : Option Nat := match v with
    | .int n => n.toNat?
    | _ => none
  match number?.bind ofNat? with
  | some s => .ok s
  | none => .error (.strength v)

/-- A strength by its name in any case, or by its number, which may be written in digits. -/
def ofSetting (v : Value) : Except Failure Strength :=
  match v with
  | .text t =>
    let key := Unicode.lowerCase (Text.strip t)
    match ofName? key with
    | some s => .ok s
    | none =>
      if key.isEmpty || !key.all Unicode.isDigit then .error (.strength v)
      else do ofValue (.int (← Setting.readInteger key))
  | v => ofValue v

end Strength

/-- A normalization form by name. A name that no form has is found out only when a text has to be
put into that form. -/
inductive FormSetting where
  | off
  | known (form : Form)
  | unknown
  deriving DecidableEq, Repr

namespace FormSetting

def ofName : Option Text → FormSetting
  | none => off
  | some name =>
    if name.isEmpty then off
    else match Form.ofName? name with
      | some form => known form
      | none => unknown

/-- The form to use, if the setting does not fail every text. -/
def form? : FormSetting → Option (Option Form)
  | off => some none
  | known form => some (some form)
  | unknown => none

/-- The empty text is in every form. -/
def normalize (s : FormSetting) (t : Text) : Except Failure Text :=
  match s.form? with
  | some form => .ok (Collation.normalize form t)
  | none => if t.isEmpty then .ok [] else .error .unknownForm

end FormSetting

namespace Rule

/-- Whether the tokens are right up to a first operand. -/
def reachesOperand : List Token → Bool
  | .operand _ _ :: _ => true
  | .operator .primary _ :: .operand _ _ :: _ => true
  | _ => false

/-- Reads a rule text, which may be missing, under a setting of the normalization form. An unknown
form is a fault of the first operand. -/
def parseSetting (s : FormSetting) (text : Option Text) : Except Failure (List Statement) :=
  let t := text.getD []
  match s.form? with
  | some form => (parse form t).mapError .rule
  | none =>
    if !Text.isBlank t && reachesOperand (scan t).tokens then .error .unknownForm
    else (parse none t).mapError .rule

end Rule

end Collation
