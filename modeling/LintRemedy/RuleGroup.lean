import LintRemedy.Finding.Basic

/-!
This module contains rule groups: the findings of one rule, taken together as the unit of work, and
the aggregation of an analyzer run into them.
-/

namespace LintRemedy

structure Location where
  /-- The file name for display. -/
  file : String
  fileFull : String
  line : Int
  column : Int
  hasFix : Bool
deriving DecidableEq, Repr

structure RuleGroup where
  /-- The rule, none for the files that could not be parsed. -/
  ruleId : Option String
  severity : Severity
  count : Int
  /-- Whether the analyzer can repair one of the findings itself. -/
  autoFixable : Bool
  fixableCount : Int
  locations : List Location
  sampleMessages : List String
  sampleSource : List String
deriving DecidableEq, Repr

structure Summary where
  totalIssues : Int
  errors : Int
  warnings : Int
  fixable : Int
  uniqueRules : Int
deriving DecidableEq, Repr

/-- An analyzer run, grouped by rules. -/
structure Aggregation where
  summary : Summary
  rules : List RuleGroup
deriving DecidableEq, Repr

/-- A file that could not be parsed. -/
structure ParseError where
  file : String
  line : Int
  message : String
deriving DecidableEq, Repr

def RuleGroup.leadFile? (group : RuleGroup) : Option String :=
  group.locations.head?.map (·.fileFull)

/-- The group with its locations in one file only. -/
def RuleGroup.narrow (file : String) (group : RuleGroup) : RuleGroup :=
  let locations := group.locations.filter (·.fileFull = file)
  { group with locations, count := locations.length }

def Summary.empty : Summary :=
  ⟨0, 0, 0, 0, 0⟩

namespace Location

def read : Json → Checked Location :=
  Field.record fun fields =>
    Location.mk
      <$> Field.required Field.text "file" fields
      <*> Field.required Field.text "file_full" fields
      <*> Field.required Field.whole "line" fields
      <*> Field.required Field.whole "column" fields
      <*> Field.withDefault false Field.flag "has_fix" fields

def toJson (l : Location) : Json :=
  .obj [("file", .str l.file), ("file_full", .str l.fileFull), ("line", .int l.line),
    ("column", .int l.column), ("has_fix", .bool l.hasFix)]

end Location

namespace RuleGroup

def read : Json → Checked RuleGroup :=
  Field.record fun fields =>
    RuleGroup.mk
      <$> Field.withDefault none (Field.optional Field.text) "rule_id" fields
      <*> Field.withDefault .warning (Field.choice Severity.ofName?) "severity" fields
      <*> Field.withDefault 0 Field.whole "count" fields
      <*> Field.withDefault false Field.flag "auto_fixable" fields
      <*> Field.withDefault 0 Field.whole "fixable_count" fields
      <*> Field.withDefault [] (Field.list Location.read) "locations" fields
      <*> Field.withDefault [] (Field.list Field.text) "sample_messages" fields
      <*> Field.withDefault [] (Field.list Field.text) "sample_source" fields

def toJson (group : RuleGroup) : Json :=
  .obj [("rule_id", Finding.textOrNull group.ruleId), ("severity", .str group.severity.name),
    ("count", .int group.count), ("auto_fixable", .bool group.autoFixable),
    ("fixable_count", .int group.fixableCount),
    ("locations", .arr (group.locations.map Location.toJson)),
    ("sample_messages", .arr (group.sampleMessages.map .str)),
    ("sample_source", .arr (group.sampleSource.map .str))]

end RuleGroup

namespace Summary

def read : Json → Checked Summary :=
  Field.record fun fields =>
    Summary.mk
      <$> Field.withDefault 0 Field.whole "total_issues" fields
      <*> Field.withDefault 0 Field.whole "errors" fields
      <*> Field.withDefault 0 Field.whole "warnings" fields
      <*> Field.withDefault 0 Field.whole "fixable" fields
      <*> Field.withDefault 0 Field.whole "unique_rules" fields

def toJson (s : Summary) : Json :=
  .obj [("total_issues", .int s.totalIssues), ("errors", .int s.errors),
    ("warnings", .int s.warnings), ("fixable", .int s.fixable),
    ("unique_rules", .int s.uniqueRules)]

end Summary

namespace Aggregation

def read : Json → Checked Aggregation :=
  Field.record fun fields =>
    Aggregation.mk
      <$> Field.withDefault Summary.empty Summary.read "summary" fields
      <*> Field.withDefault [] (Field.list RuleGroup.read) "rules" fields

def toJson (a : Aggregation) : Json :=
  .obj [("summary", a.summary.toJson), ("rules", .arr (a.rules.map RuleGroup.toJson))]

end Aggregation

def ParseError.toJson (e : ParseError) : Json :=
  .obj [("file", .str e.file), ("line", .int e.line), ("message", .str e.message)]

end LintRemedy
