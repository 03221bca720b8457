import LintRemedy.Patch.Edit
import LintRemedy.World

/-!
This module contains the patching of files. Every operation reads the file right before it writes
it, finds code by its content and never by its line, and tells whether it has changed the file.
-/

namespace LintRemedy

structure PatchCounts where
  success : Int
  failed : Int
  skipped : Int
deriving DecidableEq, Repr

namespace Patch

/-- Carries a file operation out. An unusable name is a fault, and so is a text that cannot be
written, which leaves an empty file. Any other failure changes nothing. -/
def commit (name : String) (outcome : Files → Except Files.EditFault (Option Files)) :
    Act Bool := do
  let world ← get
  match outcome world.files with
  | .ok (some files) =>
    set { world with files }
    Act.record (.editedFile name)
    return true
  | .ok none => return false
  | .error (.unopened (.badName fault)) => throw (.badName fault)
  | .error (.unopened _) => return false
  | .error (.cutShort fault files) =>
    set { world with files }
    Act.record (.editedFile name)
    throw (.unencodable fault)

/-- The tree after a text edit of a file, none if the edit does not apply. -/
def revised (name : String) (edit : List Char → Option (List Char)) (files : Files) :
    Except Files.EditFault (Option Files) := do
  let content ← (files.readText name).mapError .unopened
  match edit content.toList with
  | none => return none
  | some new => return some (← files.editText name (String.ofList new))

/-- Replaces the first occurrence of the old code of a fix in its file. -/
def replace (fix : Replacement) : Act Bool :=
  commit fix.file (revised fix.file (Edit.replace? fix.old.toList fix.new.toList))

/-- Applies one fix and counts what comes of it. -/
def countFix (counts : PatchCounts) (fix : Replacement) : Act PatchCounts := do
  if ¬ fix.isComplete then return { counts with skipped := counts.skipped + 1 }
  else if ← replace fix then return { counts with success := counts.success + 1 }
  else return { counts with failed := counts.failed + 1 }

/-- Applies fixes in order. A fix without one of its texts is skipped. -/
def replaceAll (fixes : List Replacement) : Act PatchCounts :=
  fixes.foldlM countFix ⟨0, 0, 0⟩

/-- Puts a suppression comment above a line of a file. -/
def suppressLine (file : String) (line : Int) (rule : String) : Act Bool :=
  commit file (revised file (Edit.suppressLine? line rule.toList))

def suppressFile (file rule : String) : Act Bool :=
  commit file (revised file (fun content => some (Edit.suppressFile rule.toList content)))

/-- Replaces the lint config by a new text. An empty text is refused. -/
def overwrite (name text : String) : Act Bool :=
  if text = "" then return false
  else commit name fun files => some <$> files.editText name text

end Patch
end LintRemedy
