import Collation.Strength
import Collation.Table.Segment
import Collation.Unicode.Normalization

/-! Collation keys: what is compared in place of a text. -/

namespace Collation

/-- A text to be collated, which may be missing. -/
abbrev Word := Option Text

namespace Word

/-- Missing, empty, or white space only. -/
def isBlank (w : Word) : Bool :=
  Text.isBlank (w.getD [])

end Word

/-- A weight table, and the normalization form that texts are put into before they are cut. -/
structure Tailoring where
  table : Table
  form : Option Form

/-- The weights of a text's elements, with the text that they come from. -/
structure Key where
  source : Text
  normalized : Text
  weights : List Weight
  strength : Strength
  deriving DecidableEq, Repr

namespace Key

variable (k : Key)

/-- The ranks of all elements on one level. The finest level holds code points. -/
def level : Strength → List Int
  | .primary => k.weights.map Weight.primary
  | .secondary => k.weights.map Weight.secondary
  | .tertiary => k.weights.map Weight.tertiary
  | .identical => k.normalized.map fun c => c.toNat

/-- A level by number. Past the finest one, and with a negative number, the number picks a part of
every weight, which there is only from -3 to 2. -/
def levelAt? (n : Int) : Option (List Int) :=
  if n = 3 then some (k.level .identical)
  else if n = 0 || n = -3 then some (k.level .primary)
  else if n = 1 || n = -2 then some (k.level .secondary)
  else if n = 2 || n = -1 then some (k.level .tertiary)
  else if k.weights.isEmpty then some [] else none

def isBlank : Bool :=
  Text.isBlank k.source

/-- All levels up to the strength. A blank text has none, so that it comes before every other. -/
def levels : List (List Int) :=
  if k.isBlank then [] else k.strength.levels.map k.level

/-- Keys are equal if their levels are. -/
def same (l : Key) : Bool :=
  k.levels == l.levels

/-- Keys are ordered by their levels, and within a level by rank: a proper beginning comes first. -/
def less (l : Key) : Bool :=
  decide (k.levels < l.levels)

def le (l : Key) : Bool :=
  !l.less k

def greater (l : Key) : Bool :=
  !k.less l && !k.same l

/-- How many keys differ from all keys after them. -/
def countDistinct : List Key → Nat
  | [] => 0
  | k :: ks => countDistinct ks + if ks.any k.same then 0 else 1

/-- The place of the first of the greatest keys. -/
def indexOfMax? (ks : List Key) : Option Nat :=
  ks.findIdx? fun k => ks.all (·.le k)

end Key

namespace Tailoring

variable (t : Tailoring)

def key (s : Strength) (w : Word) : Key :=
  let source := w.getD []
  let normalized := normalize t.form source
  ⟨source, normalized, t.table.weigh normalized, s⟩

end Tailoring

end Collation
