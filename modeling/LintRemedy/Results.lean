import LintRemedy.Json.Encoder
import LintRemedy.Path
import LintRemedy.World

/-!
This module contains the saving of results to a file.
-/

namespace LintRemedy
namespace Results

/-- Writes a value to a file as indented JSON and tells whether that was possible. -/
def save (path : String) (value : Json) : Act Bool := do
  let world ← get
  match world.files.editText (Path.absolute world.workDir path) value.encodeIndented with
  | .ok files =>
    set { world with files }
    return true
  | .error (.unopened (.badName fault)) => throw (.badName fault)
  | .error (.unopened _) => return false
  | .error (.cutShort fault files) =>
    set { world with files }
    throw (.unencodable fault)

end Results
end LintRemedy
