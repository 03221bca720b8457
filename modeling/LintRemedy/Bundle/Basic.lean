import LintRemedy.Finding.Basic

/-!
This module contains the bundle of remedies that is put together for one work item: an explanation
of the rule, a change of the lint config that disables it, and a replacement of code per location.
-/

namespace LintRemedy

inductive Priority where
  | low
  | medium
  | high
deriving DecidableEq, Repr

def Priority.name : Priority → String
  | low => "low"
  | medium => "medium"
  | high => "high"

def Priority.ofName? : String → Option Priority
  | "low" => some low
  | "medium" => some medium
  | "high" => some high
  | _ => none

structure Explanation where
  problem : String
  reason : String
  guidance : String
  priority : Priority
deriving DecidableEq, Repr

/-- A change of the lint config, given by its whole new text. -/
structure ConfigChange where
  modifiedConfig : String
  description : String
deriving DecidableEq, Repr

/-- A replacement of code in a file. The lines are for display, the text to replace is found by its
content. -/
structure Replacement where
  file : String
  startLine : Int
  endLine : Int
  /-- The code that is replaced. -/
  old : String
  new : String
  explanation : String
deriving DecidableEq, Repr

structure Bundle where
  ruleId : String
  count : Int
  severity : Severity
  explain : Explanation
  disable : ConfigChange
  fixes : List Replacement
deriving DecidableEq, Repr

structure Answer where
  answer : String
  suggestion : Option String
deriving DecidableEq, Repr

def Replacement.isComplete (fix : Replacement) : Bool :=
  fix.old ≠ "" ∧ fix.new ≠ ""

namespace Explanation

def read : Json → Checked Explanation :=
  Field.record fun fields =>
    Explanation.mk
      <$> Field.required Field.text "problem_description" fields
      <*> Field.withDefault "" Field.text "why_problem" fields
      <*> Field.withDefault "" Field.text "how_to_fix" fields
      <*> Field.withDefault .medium (Field.choice Priority.ofName?) "priority" fields

def toJson (e : Explanation) : Json :=
  .obj [("problem_description", .str e.problem), ("why_problem", .str e.reason),
    ("how_to_fix", .str e.guidance), ("priority", .str e.priority.name)]

end Explanation

namespace ConfigChange

def read : Json → Checked ConfigChange :=
  Field.record fun fields =>
    ConfigChange.mk
      <$> Field.withDefault "" Field.text "modified_config" fields
      <*> Field.withDefault "" Field.text "diff_description" fields

def toJson (e : ConfigChange) : Json :=
  .obj [("modified_config", .str e.modifiedConfig), ("diff_description", .str e.description)]

end ConfigChange

namespace Replacement

def read : Json → Checked Replacement :=
  Field.record fun fields =>
    Replacement.mk
      <$> Field.required Field.text "file" fields
      <*> Field.required Field.whole "start_line" fields
      <*> Field.required Field.whole "end_line" fields
      <*> Field.required Field.text "original" fields
      <*> Field.required Field.text "fixed" fields
      <*> Field.withDefault "" Field.text "explanation" fields

def toJson (fix : Replacement) : Json :=
  .obj [("file", .str fix.file), ("start_line", .int fix.startLine), ("end_line", .int fix.endLine),
    ("original", .str fix.old), ("fixed", .str fix.new),
    ("explanation", .str fix.explanation)]

end Replacement

namespace Bundle

def read : Json → Checked Bundle :=
  Field.record fun fields =>
    Bundle.mk
      <$> Field.required Field.text "rule_id" fields
      <*> Field.required Field.whole "count" fields
      <*> Field.required (Field.choice Severity.ofName?) "severity" fields
      <*> Field.required Explanation.read "explain" fields
      <*> Field.required ConfigChange.read "disable_config" fields
      <*> Field.withDefault [] (Field.list Replacement.read) "fixes" fields

def toJson (b : Bundle) : Json :=
  .obj [("rule_id", .str b.ruleId), ("count", .int b.count), ("severity", .str b.severity.name),
    ("explain", b.explain.toJson), ("disable_config", b.disable.toJson),
    ("fixes", .arr (b.fixes.map Replacement.toJson))]

end Bundle

namespace Answer

def read : Json → Checked Answer :=
  Field.record fun fields =>
    Answer.mk
      <$> Field.required Field.text "answer" fields
      <*> Field.withDefault none (Field.optional Field.text) "code_suggestion" fields

def toJson (a : Answer) : Json :=
  .obj [("answer", .str a.answer), ("code_suggestion", Finding.textOrNull a.suggestion)]

end Answer
end LintRemedy
