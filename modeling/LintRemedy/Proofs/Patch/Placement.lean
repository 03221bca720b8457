import LintRemedy.Proofs.Patch.Application
import LintRemedy.Proofs.Remedy.Capture

/-!
This module contains where a fix lands: the place where the old code that was captured for it is found
again when the fix is applied, be it to the same text or to another one.
-/

namespace LintRemedy

namespace Replacement

end Replacement

variable {channel : Oracle.Channel} {window : Int} {rule message : String} {location : Location}
  {talk talk' : Talk} {fix : Replacement} {replied : Bool}

/-- A project with the same code in two lines, and an oracle that repairs the second one. -/
def twiceWorld : World :=
  let answer := "\x7b\"start_line\":2,\"end_line\":2,\"fixed_code\":\"a === b;\"\x7d"
  { World.empty with
    files := (Files.empty ["w"]).set ["w", "a.js"] (.text "a == b;\na == b;\n")
    replies := [⟨.finished 0 (.text answer) (.text ""), []⟩] }

def agentChannel : Oracle.Channel :=
  ⟨⟨"claude-code", .schemaAgent, "haiku", [], "", "claude"⟩, "m", .wholeSeconds 60⟩

end LintRemedy
