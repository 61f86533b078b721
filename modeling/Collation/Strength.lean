import Collation.Text

/-! How many levels take part in a comparison. -/

namespace Collation

/-- The finest level that counts: base letters, accents, case, or code points as a last resort. -/
inductive Strength where
  | primary
  | secondary
  | tertiary
  | identical
  deriving DecidableEq, Repr

namespace Strength

def toNat : Strength → Nat
  | primary => 1
  | secondary => 2
  | tertiary => 3
  | identical => 4

/-- All strengths, the coarsest first. -/
def all : List Strength :=
  [primary, secondary, tertiary, identical]

def ofNat? (n : Nat) : Option Strength :=
  all.find? (·.toNat = n)

/-- The levels that take part, the coarsest first. -/
def levels (s : Strength) : List Strength :=
  all.take s.toNat

def name : Strength → Text
  | primary => "primary"
  | secondary => "secondary"
  | tertiary => "tertiary"
  | identical => "identical"

def ofName? (name : Text) : Option Strength :=
  all.find? (·.name = name)

instance : LE Strength := ⟨fun a b => a.toNat ≤ b.toNat⟩

instance (a b : Strength) : Decidable (a ≤ b) := inferInstanceAs (Decidable (a.toNat ≤ b.toNat))

end Strength

end Collation
