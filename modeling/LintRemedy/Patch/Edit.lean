import LintRemedy.Bundle.Basic
import LintRemedy.Text.Blank
import LintRemedy.Text.Lines

/-!
This module contains the edits of source text: the replacement of a piece of code that is found by
its content, the suppression comment above a line, and the suppression comment for a whole file.
-/

namespace LintRemedy
namespace Edit

open Text

/-- The text with the first occurrence of the old code of a fix replaced. There is none if the
old code is empty or does not occur. -/
def replace? (old new content : List Char) : Option (List Char) :=
  if old.isEmpty ∨ ¬ occurs old content then none
  else some (replaceFirst old new content)

/-- The comment that suppresses a rule in the next line, with the indent of that line. -/
def lineComment (rule target : List Char) : List Char :=
  target.takeWhile isIndent ++ "// eslint-disable-next-line ".toList ++ rule

/-- The text with a suppression comment above a line, counted from one. There is none for a line out
of range. -/
def suppressLine? (line : Int) (rule content : List Char) : Option (List Char) :=
  let ending := LineEnding.ofText content
  let lines := ending.split content
  if line < 1 ∨ lines.length < line then none
  else
    let index := (line - 1).toNat
    let comment := lineComment rule (lines[index]?.getD [])
    some (ending.join (lines.take index ++ comment :: lines.drop index))

/-- The start of a comment that suppresses rules in a file. -/
def fileMark : List Char :=
  "/* eslint-disable".toList

/-- The header that suppresses a rule in a file, with every line feed written as a line ending. -/
def fileHeader (ending : LineEnding) (rule : List Char) : List Char :=
  (fileMark ++ ' ' :: rule ++ " */\n".toList).flatMap fun c =>
    if c = '\n' then ending.mark else [c]

/-- The text with a rule suppressed in the whole file: the header at the top is extended, or a new
one is put there. -/
def suppressFile (rule content : List Char) : List Char :=
  match after? fileMark content with
  | some rest => fileMark ++ ' ' :: rule ++ ',' :: rest
  | none => fileHeader (.ofText content) rule ++ content

end Edit
end LintRemedy
