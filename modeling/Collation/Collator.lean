import Collation.Setting
import Collation.Sort
import Collation.Workers

/-! Collators, which hold all that an order of texts depends on. -/

namespace Collation

/-- The table of a rule text, with the form that its elements were put into. -/
def Tailoring.ofRules (form : Option Form) (text : Text) : Except RuleError Tailoring := do
  return ⟨.ofStatements (← Rule.parse form text), form⟩

/-- No rule text can be read under an unknown form. -/
def Tailoring.ofSetting (s : FormSetting) (text : Option Text) : Except Failure Tailoring := do
  let statements ← Rule.parseSetting s text
  return ⟨.ofStatements statements, s.form?.getD none⟩

/-- The keys of words, made by workers. -/
def Tailoring.keysBy (t : Tailoring) (w : Workers)
    (pool : List Word → Except Failure (List Key)) (s : Strength) (ws : List Word) :
    Except Failure (List Key) × Bool :=
  w.map pool (fun x => .ok (t.key s x)) ws

/-- Sorts by keys that workers make, and tells whether a notice of a failed pool is due. -/
def Tailoring.sortBy (t : Tailoring) (w : Workers)
    (pool : List Word → Except Failure (List Key)) (s : Strength) (ws : List Word) :
    Except Failure (List Word) × Bool :=
  let (keys, notice) := t.keysBy w pool s ws
  (keys.map (arrange ws), notice)

/-- A tailoring with a strength, and the setting of the number of processes that make keys. -/
structure Collator where
  tailoring : Tailoring
  strength : Strength
  processes : Value

namespace Collator

variable (c : Collator)

def compare (a b : Word) : Ordering :=
  c.tailoring.compare c.strength a b

def less (a b : Word) : Bool :=
  c.compare a b = .lt

def key (w : Word) : Key :=
  c.tailoring.key c.strength w

def withStrength (s : Strength) : Collator :=
  { c with strength := s }

/-- Keys come from a pool if it can be started, and from one process otherwise. -/
def sort (ws : List Word) : Except Failure (List Word) × Bool :=
  let workers : Workers := ⟨Workers.isSingleCount c.processes, true⟩
  let pool (ws : List Word) : Except Failure (List Key) := do
    Pool.startFor c.processes
    return ws.map c.key
  c.tailoring.sortBy workers pool c.strength ws

end Collator

end Collation
