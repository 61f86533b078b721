import Collation.Text

/-! Command lines cut into positional arguments and groups that start with an option key. -/

namespace Collation

/-- Two hyphens start an option key, and `-h` is one. -/
def isOptionKey (argument : Text) : Bool :=
  ['-', '-'].isPrefixOf argument || argument = ['-', 'h']

/-- A group is an option key with the arguments up to the next one. -/
structure ArgumentGroup where
  key : Text
  arguments : List Text
  deriving DecidableEq, Repr

structure ArgumentSplit where
  positional : List Text
  groups : List ArgumentGroup
  deriving DecidableEq, Repr

/-- Splits the arguments from the right: what no key has claimed belongs to the key before it. -/
def splitArguments : List Text → ArgumentSplit
  | [] => ⟨[], []⟩
  | a :: rest =>
    let s := splitArguments rest
    if isOptionKey a then ⟨[], ⟨a, s.positional⟩ :: s.groups⟩ else ⟨a :: s.positional, s.groups⟩

end Collation
