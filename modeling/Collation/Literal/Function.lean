import Collation.Literal.Reading

/-! Functions without a name: their parameters, and the expression that they evaluate. -/

namespace Collation.Literal.Reading

variable (read : Reader) (fuel : Nat)

/-- What the parameters before allow. -/
inductive Parameters where
  | plain
  | withDefault
  /-- A parameter that is given by name, and at least one of them. -/
  | oneNamed
  /-- A parameter that is given by name. -/
  | named
  | closed
  deriving DecidableEq

def Parameters.byPlace (p : Parameters) : Bool :=
  p = .plain || p = .withDefault

/-- The end of a parameter: a comma, or the colon after the last one. -/
def parameterEnd : Reading Unit := do
  unless ← next (·.isSymbol .colon) do require (·.isSymbol .comma)

/-- Parameters up to the colon, and their defaults. `isDivided` tells whether a slash came. -/
def parameters (level : Nat) : Nat → Parameters → Bool → List Node → Reading (List Node)
  | 0, _, _, _ => fail
  | fuel + 1, allowed, isDivided, found => do
    if ← take (·.isSymbol .colon) then
      if allowed = .oneNamed then fail else return found
    match ← get with
    | .symbol .slash :: rest =>
      if !allowed.byPlace || isDivided || found.isEmpty then fail
      set rest
      parameterEnd
      parameters level fuel allowed true found
    | .symbol .star :: .symbol .comma :: rest =>
      if !allowed.byPlace then fail
      set rest
      parameters level fuel .oneNamed true found
    | .symbol .star :: .name _ :: rest =>
      if !allowed.byPlace then fail
      set rest
      parameterEnd
      parameters level fuel .named true (.other 1 :: found)
    | .symbol .twoStars :: .name _ :: rest =>
      if allowed = .oneNamed || allowed = .closed then fail
      set rest
      parameterEnd
      parameters level fuel .closed true (.other 1 :: found)
    | .name _ :: rest =>
      if allowed = .closed then fail
      set rest
      let found := .other 1 :: found
      if ← take (·.isSymbol .assign) then
        let n ← read .expression level
        parameterEnd
        parameters level fuel (if allowed.byPlace then .withDefault else .named) isDivided
          (n :: found)
      else if allowed = .withDefault then fail
      else
        parameterEnd
        parameters level fuel (if allowed = .plain then .plain else .named) isDivided found
    | _ => fail

def function (level : Nat) : Reading Node := do
  let parts ← parameters read (level + 8) fuel .plain false []
  return .around [← read .expression (level + 2), .around parts]

end Collation.Literal.Reading
