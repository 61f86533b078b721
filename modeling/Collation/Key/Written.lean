import Collation.Key.Basic
import Collation.Text.Quoted

/-! The written form of keys in messages. -/

namespace Collation

def Weight.written (w : Weight) : Text :=
  "WeightEntry(primary=" ++ digits w.primary ++ ", secondary=" ++ digits w.secondary ++
    ", tertiary=" ++ digits w.tertiary ++ [')']

def Key.written (k : Key) : Text :=
  "CollationKey(" ++ Text.quoted k.source ++ ", [" ++
    Text.join ", " (k.weights.map Weight.written) ++ "])"

end Collation
