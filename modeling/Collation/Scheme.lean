import Collation.Setting
import Collation.Sort

/-! Weight tables with a normalization form that is given by name, as requests make them. -/

namespace Collation

structure Scheme where
  table : Table
  formName : Option Text

namespace Scheme

variable (t : Scheme)

def ofRules (text : Word) (formName : Option Text) : Except Failure Scheme := do
  let statements ← Rule.parseSetting (.ofName formName) text
  return ⟨.ofStatements statements, formName⟩

def normalize (text : Text) : Except Failure Text :=
  (FormSetting.ofName t.formName).normalize text

/-- The key of a word. Under an unknown form, only the empty text has one. -/
def key (s : Strength) (w : Word) : Except Failure Key := do
  let normalized ← t.normalize (w.getD [])
  return ⟨w.getD [], normalized, t.table.weigh normalized, s⟩

/-- Blank words are settled before the strength is looked at. -/
def compare (strength : Except Failure Strength) (a b : Word) : Except Failure Ordering :=
  match Word.compareBlank a b with
  | some o => .ok o
  | none => do
    let s ← strength
    return Key.compare s (← t.key s a) (← t.key s b)

/-- Without a strength there are no keys, even of no words. -/
def keys (strength : Except Failure Strength) (ws : List Word) : Except Failure (List Key) := do
  let s ← strength
  ws.mapM (t.key s)

/-- No words are sorted before the strength is looked at. -/
def sort (strength : Except Failure Strength) (ws : List Word) : Except Failure (List Word) :=
  if ws.isEmpty then .ok [] else (t.keys strength ws).map (arrange ws)

end Scheme

end Collation
