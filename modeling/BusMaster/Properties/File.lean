import BusMaster.FileSystem
import BusMaster.Properties.Basic

/-!
# Properties files

Reading the properties of a file. A missing file is no error.
-/

namespace BusMaster.Properties

/-- Why a properties file that exists gives no properties. -/
inductive FileFault where
  | unreadable (path : String) (cause : FileError)
  | malformed (path : String) (cause : Malformed)
deriving DecidableEq, Repr

def FileFault.message : FileFault → String
  | unreadable path cause => s!"Cannot read properties file {path}: {cause.message}"
  | malformed path cause => s!"Malformed properties file {path}: {cause.message}"

/-- The properties of a file: nothing if it is missing. -/
def load (read : FileReader) (path : String) : Except FileFault (Option Properties) :=
  match read path with
  | .error e => .error (.unreadable path e)
  | .ok none => .ok none
  | .ok (some text) =>
    match parse text with
    | .ok props => .ok (some props)
    | .error e => .error (.malformed path e)

end BusMaster.Properties
