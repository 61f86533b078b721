import Collation.Config.Values
import Collation.Host.Basic

/-! Settings read from one section of a configuration file. -/

namespace Collation.Config

variable {m : Type → Type} [Monad m] [Host m]

/-- Adds the settings of a section to `vs`, and tells whether there is a file at all. All sections
have to be right, and nothing is added unless they are. A file without the section adds nothing. -/
def readSection (path name : Text) (vs : Values) : Attempt m (Values × Bool) := do
  match ← (Host.read path : m _) with
  | .error .notFound => return (vs, false)
  | .error cause => throw (.file cause path)
  | .ok bytes =>
    match read path bytes with
    | .error e => throw e
    | .ok sections => return (vs.putAll ((sections.lookup name).getD []), true)

end Collation.Config
