import Collation.Config.Values
import Collation.Setting
import Collation.Value.Arithmetic
import Collation.Value.Order

/-! Functions on values that can be called by name, and their arguments. -/

namespace Collation

/-- Arguments by place, and arguments by name. -/
structure Arguments where
  placed : List Value
  named : List (Text × Value)

namespace Arguments

/-- The arguments for parameters, of which those without a name are given by place only. Nothing may
be left over. -/
def bind (a : Arguments) (parameters : List Text) : Except Failure (List (Option Value)) :=
  let byName := (parameters.drop a.placed.length).filter (!·.isEmpty)
  if parameters.length < a.placed.length || a.named.any (!byName.contains ·.1) then .error .type
  else .ok ((a.placed.map some) ++
    (parameters.drop a.placed.length).map fun p => if p.isEmpty then none else a.named.lookup p)

/-- The arguments of a partial call with those of the call proper after them. -/
def extend (a : Arguments) (row : List Value) : Arguments :=
  ⟨a.placed ++ row, a.named⟩

end Arguments

abbrev Function := Arguments → Except Failure Value

namespace Function

def power (a : Arguments) : Except Failure Value := do
  match ← a.bind ["base", "exp", "mod"] with
  | [some b, some e, none] | [some b, some e, some .none] => b.pow e
  | [some b, some e, some m] => b.powMod e m
  | _ => throw .type

def divide (a : Arguments) : Except Failure Value := do
  match ← a.bind ["", ""] with
  | [some b, some c] => b.divide c
  | _ => throw .type

/-- A key that is given has to be nothing, unless there is no value to use it on. -/
def greatestOf (key : Option Value) : List Value → Except Failure (Option Value)
  | [] => .ok none
  | v :: vs =>
    match key with
    | none | some .none => match v.greatest? vs with
      | some best => .ok (some best)
      | none => .error .type
    | _ => .error .type

/-- The greatest argument, or the greatest member of the only one. -/
def greatest (a : Arguments) : Except Failure Value := do
  let key := a.named.lookup "key".toList
  let default := a.named.lookup "default".toList
  if a.named.any fun (name, _) => name ≠ "key".toList && name ≠ "default".toList then throw .type
  match a.placed with
  | [] => throw .type
  | [v] =>
    match v.members? with
    | none => throw .type
    | some vs =>
      match ← greatestOf key vs, default with
      | some best, _ => return best
      | none, some v => return v
      | none, none => throw .noMaximum
  | vs =>
    if default.isSome then throw .type
    match ← greatestOf key vs with
    | some best => return best
    | none => throw .type

def length (a : Arguments) : Except Failure Value := do
  match ← a.bind [""] with
  | [some v] => match v.members? with
    | some vs => return .int vs.length
    | none => throw .type
  | _ => throw .type

def numeral? : Value → Option Text
  | .text t => some t
  | .bytes bs => some (bs.map fun b => if b < 128 then Char.ofNat b.toNat else '?')
  | _ => none

def integerOf (v : Value) : Except Failure Value :=
  match v, numeral? v with
  | v, some t => (Setting.readIntegerIn 10 v t).map .int
  | .float x, _ => match Binary64.truncate? x with
    | some n => .ok (.int n)
    | none =>
      if x.isNaN then .error (.raised .value [.text "cannot convert float NaN to integer"])
      else .error (.arithmetic .overflow "cannot convert float infinity to integer")
  | v, _ => match v.whole? with
    | some n => .ok (.int n)
    | none => .error .type

/-- Only a numeral can be read in a base. -/
def integerInBase (v base : Value) : Except Failure Value :=
  match base.whole? with
  | none => .error .type
  | some b =>
    if (b ≠ 0 && b < 2) || 36 < b then
      .error (.raised .value [.text "int() base must be >= 2 and <= 36, or 0"])
    else match numeral? v with
      | some t => (Setting.readIntegerIn b.toNat v t).map .int
      | none => .error .type

def integer (a : Arguments) : Except Failure Value := do
  match ← a.bind ["", "base"] with
  | [none, none] => return .int 0
  | [some v, none] => integerOf v
  | [some v, some b] => integerInBase v b
  | _ => throw .type

/-- Whatever is no text stands for itself. -/
def setting (a : Arguments) : Except Failure Value := do
  match ← a.bind ["s"] with
  | [some (.text t)] => Config.evaluate t
  | [some v] => return v
  | _ => throw .type

def increment (a : Arguments) : Except Failure Value := do
  match ← a.bind ["x"] with
  | [some v] => v.successor
  | _ => throw .type

def ofName? (name : Text) : Option Function :=
  let table : List (String × Function) :=
    [("pow", power), ("int", integer), ("divmod", divide), ("max", greatest), ("len", length),
      ("eval_str", setting), ("local_increment", increment)]
  (table.find? (·.1.toList = name)).map Prod.snd

/-- A function that is known only where it is defined cannot be sent to other processes. -/
def isSendable (name : Text) : Bool :=
  name ≠ "local_increment".toList

end Function

end Collation
