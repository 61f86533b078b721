import Collation.Failure.Basic

/-! Records of named values that cannot be changed, such as a statement shows itself. -/

namespace Collation

structure Record where
  kind : Text
  fields : List (Text × Value)

namespace Record

variable (r : Record)

/-- A statement whose relation may be any text. -/
def statement (relation element : Text) (position : Int) : Record :=
  ⟨"RuleStatement", [("relation", .text relation), ("element", .text element),
    ("position", .int position)]⟩

def get (name : Text) : Except Failure Value :=
  match r.fields.lookup name with
  | some v => .ok v
  | none => .error (.noAttribute r.kind name)

/-- No field can be set or taken away. -/
def change : Except Failure Record :=
  .error .immutable

def same (s : Record) : Bool :=
  Value.same (.dict (r.fields.map fun (n, v) => (.text n, v)))
    (.dict (s.fields.map fun (n, v) => (.text n, v)))

def written : Text :=
  r.kind ++ '(' :: Text.join ", " (r.fields.map fun (n, v) => n ++ '=' :: v.written) ++ [')']

end Record

end Collation
