import ControlPlane.Config
import ControlPlane.Program
import ControlPlane.Wording

/-!
# Settings in files
-/

namespace ControlPlane.Config

variable [Wording]

/-- The settings that a JSON text gives, or the error of a text that gives none. -/
def ofJson (text : String) : Except Error Config :=
  match Config.parse? text with
  | some config => .ok config
  | none => .error (.json (Wording.json decoder (Bytes.ofString text)))

def load (path : String) : Program (Except Error Config) := do
  match ← Program.readText path with
  | .error fault =>
    return .error (.config ("cannot read config file " ++ path ++ ": " ++ fault.message))
  | .ok text => return ofJson text

end ControlPlane.Config
