import Collation.Text.Quoted

/-! What can be wrong with a configuration file. -/

namespace Collation.Config

inductive Fault where
  | noSection (line : Nat) (content : Text)
  | repeatedSection (section_ : Text) (line : Nat)
  | repeatedOption (section_ option : Text) (line : Nat)
  | badLines (lines : List (Nat × Text))
  deriving DecidableEq, Repr

/-- A line number takes at least two places. -/
def lineLabel (n : Nat) : Text :=
  let ds := digits n
  "[line " ++ List.replicate (2 - ds.length) ' ' ++ ds ++ "]"

def Fault.message (file : Text) : Fault → Text
  | .noSection line content =>
    "File contains no section headers.\nfile: " ++ Text.quoted file ++ ", line: " ++ digits line ++
      '\n' :: Text.quoted content
  | .repeatedSection name line =>
    "While reading from " ++ Text.quoted file ++ ' ' :: lineLabel line ++ ": section " ++
      Text.quoted name ++ " already exists"
  | .repeatedOption name option line =>
    "While reading from " ++ Text.quoted file ++ ' ' :: lineLabel line ++ ": option " ++
      Text.quoted option ++ " in section " ++ Text.quoted name ++ " already exists"
  | .badLines lines =>
    "Source contains parsing errors: " ++ Text.quoted file ++
      lines.flatMap fun (n, content) =>
        '\n' :: '\t' :: lineLabel n ++ ':' :: ' ' :: Text.quoted content

end Collation.Config
