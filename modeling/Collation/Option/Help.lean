import Collation.Option.Kind

/-! Help texts: a line of usage and a row for each option. -/

namespace Collation.Help

/-- Keys of this width or more do not count for the column of the descriptions. -/
def defaultLimit : Int := 32

structure Row where
  keys : Text
  description : Text
  deriving DecidableEq, Repr

def rows (options : List OptionSpec) : List Row :=
  options.map (fun o => ⟨o.key, o.description⟩) ++
    [⟨"-h, --help", "Show this help message and exit."⟩]

/-- Two places more than the longest key below the limit. -/
def column? (limit : Int) (rs : List Row) : Option Nat :=
  ((rs.map fun r => r.keys.length).filter fun (n : Nat) => (n : Int) < limit).max?.map (· + 2)

/-- Keys that are too wide for the column have a line of their own. -/
def Row.lines (column : Nat) (r : Row) : List Text :=
  if r.keys.length ≤ column then [Text.padRight column r.keys ++ r.description]
  else [r.keys, "    " ++ r.description]

def usage (script : Text) (options : List OptionSpec) : Text :=
  "usage: " ++ script ++ options.flatMap fun o => ' ' :: '[' :: o.usage ++ [']']

/-- The whole help text, which needs a key below the limit. -/
def text (limit : Int) (script description : Text) (options : List OptionSpec) :
    Except Failure Text :=
  match column? limit (rows options) with
  | none => .error .noMaximum
  | some column =>
    .ok (Text.join ['\n'] ([description, usage script options, []] ++
      (rows options).flatMap (Row.lines column) ++ [[]]))

end Collation.Help
