import LintRemedy.Path
import LintRemedy.Text.Lines
import LintRemedy.World

/-!
This module contains the lint config: where it is looked for, and its text.
-/

namespace LintRemedy
namespace ConfigFile

/-- The names of a config, from the project root, in the order in which they are looked for. -/
def candidates : List String :=
  ["eslint.config.js", "eslint.config.mjs", "eslint.config.cjs",
    "packages/eslint-config/index.js"]

/-- The absolute name of the config of a project: the named one, or else the first candidate. -/
def find (root : String) (named : Option String) : Act String := do
  let world ← get
  match named.filter (· ≠ "") with
  | some name =>
    let path := Path.inProject world.workDir root name
    if world.files.isFile path then return path
    else throw (.configMissing (.named path))
  | none =>
    match (candidates.map (Path.join root)).find? world.files.isFile with
    | some path => return Path.absolute world.workDir path
    | none => throw (.configMissing (.noCandidate candidates))

/-- The text of a config with simple line breaks, empty if it cannot be read. -/
def read (path : String) : Act String := do
  match (← get).files.readText path with
  | .ok text => return String.ofList (Text.unifyLines text.toList)
  | .error (.badName fault) => throw (.badName fault)
  | .error _ => return ""

end ConfigFile
end LintRemedy
