import LintRemedy.RuleGroup

/-!
This module contains the report of a run of the repair loop.
-/

namespace LintRemedy

/-- How a run has ended, or that it has not. -/
inductive RunStatus where
  | running
  | done
  | quit
  | exhausted
  | parseError
  | scanFailed
deriving DecidableEq, Repr

def RunStatus.name : RunStatus → String
  | running => "running"
  | done => "done"
  | quit => "quit"
  | exhausted => "exhausted"
  | parseError => "parse_error"
  | scanFailed => "scan_failed"

def RunStatus.ofName? : String → Option RunStatus
  | "running" => some running
  | "done" => some done
  | "quit" => some quit
  | "exhausted" => some exhausted
  | "parse_error" => some parseError
  | "scan_failed" => some scanFailed
  | _ => none

structure RunRecord where
  status : RunStatus := .running
  /-- The number of scans that were started. -/
  iterations : Int := 0
  totalFixed : Int := 0
  totalSkipped : Int := 0
  message : String := ""
  /-- The result of the last scan that has not failed. -/
  lastResult : Option Aggregation := none
deriving DecidableEq, Repr

namespace RunRecord

def hasFailed (report : RunRecord) : Bool :=
  report.status = .parseError ∨ report.status = .scanFailed

def read : Json → Checked RunRecord :=
  Field.record fun fields =>
    RunRecord.mk
      <$> Field.withDefault .running (Field.choice RunStatus.ofName?) "status" fields
      <*> Field.withDefault 0 Field.whole "iterations" fields
      <*> Field.withDefault 0 Field.whole "total_fixed" fields
      <*> Field.withDefault 0 Field.whole "total_skipped" fields
      <*> Field.withDefault "" Field.text "message" fields
      <*> Field.withDefault none (Field.optional Aggregation.read) "last_result" fields

/-- The fields of the JSON form of a report that tell how the run went. -/
def outcomeFields (report : RunRecord) : List (String × Json) :=
  [("status", .str report.status.name), ("iterations", .int report.iterations),
    ("total_fixed", .int report.totalFixed), ("total_skipped", .int report.totalSkipped),
    ("message", .str report.message)]

def toJson (report : RunRecord) : Json :=
  let last := match report.lastResult with
    | some a => a.toJson
    | none => .null
  .obj (report.outcomeFields ++ [("last_result", last)])

end RunRecord
end LintRemedy
