import LintRemedy.Record

/-!
This module contains findings, the single findings of the analyzer.
-/

namespace LintRemedy

inductive Severity where
  | error
  | warning
deriving DecidableEq, Repr

namespace Severity

def name : Severity → String
  | error => "error"
  | warning => "warning"

def ofName? : String → Option Severity
  | "error" => some error
  | "warning" => some warning
  | _ => none

@[simp]
theorem ofName?_name (s : Severity) : ofName? s.name = some s := by
  cases s <;> rfl

end Severity

/-- A finding of the analyzer. One without a rule says that a file could not be parsed. -/
structure Finding where
  ruleId : Option String
  severity : Severity
  filePath : String
  line : Int
  column : Int
  message : String
  /-- Whether the analyzer can repair the finding itself. -/
  hasFix : Bool
  /-- The code at the finding, if it is known. -/
  source : Option String
deriving DecidableEq, Repr

namespace Finding

def read : Json → Checked Finding :=
  Field.record fun fields =>
    Finding.mk
      <$> Field.withDefault none (Field.optional Field.text) "rule_id" fields
      <*> Field.withDefault .warning (Field.choice Severity.ofName?) "severity" fields
      <*> Field.required Field.text "file_path" fields
      <*> Field.withDefault 1 Field.whole "line" fields
      <*> Field.withDefault 1 Field.whole "column" fields
      <*> Field.withDefault "" Field.text "message" fields
      <*> Field.withDefault false Field.flag "has_fix" fields
      <*> Field.withDefault none (Field.optional Field.text) "source" fields

def textOrNull : Option String → Json
  | some s => .str s
  | none => .null

def toJson (d : Finding) : Json :=
  .obj [("rule_id", textOrNull d.ruleId), ("severity", .str d.severity.name),
    ("file_path", .str d.filePath), ("line", .int d.line), ("column", .int d.column),
    ("message", .str d.message), ("has_fix", .bool d.hasFix), ("source", textOrNull d.source)]

end Finding
end LintRemedy
