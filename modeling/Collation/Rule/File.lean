import Collation.Text

/-! Rule files: rule text on several lines, among blank lines and comment lines. -/

namespace Collation.Rule

def isData (comment : Text) (line : Text) : Bool :=
  !line.isEmpty && !comment.isPrefixOf line

/-- The rule text of a file. Lines that are blank, or start with the comment sign, are left out. -/
def decodeFile (comment : Text) (content : Text) : Text :=
  Text.join " " (((Text.lines content).map Text.strip).filter (isData comment))

def commentSign : Text := "#"

end Collation.Rule
