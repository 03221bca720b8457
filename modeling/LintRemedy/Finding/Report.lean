import LintRemedy.Finding.Basic

/-!
This module contains the reading of the analyzer's report: one entry per file with a list of
messages is flattened to findings in the order of the report.
-/

namespace LintRemedy

inductive ReportFault where
  /-- A list was expected, and the value cannot be walked through. -/
  | notWalkable
  /-- An object was expected, and the value has no fields. -/
  | noFields
  /-- A line or column is neither a number nor a text. -/
  | notNumeric
  /-- A line or column is a text that spells no whole number. -/
  | badNumeral (fault : NumeralFault)
  /-- A line or column is not a number. -/
  | undefinedNumber
  /-- A line or column is infinite. -/
  | infiniteNumber
  /-- A field of a finding has a value of the wrong kind. -/
  | rejected (faults : List FieldFault)
deriving DecidableEq, Repr

namespace Report

/-- The values that a walk through a value meets: the items of a list, the characters of a text and
the names of an object's fields. -/
def walk : Json → Except ReportFault (List Json)
  | .arr items => .ok items
  | .str s => .ok (s.toList.map fun c => .str c.toString)
  | .obj fields => .ok (fields.map fun (name, _) => .str name)
  | _ => .error .notWalkable

def fieldsOf : Json → Except ReportFault (List (String × Json))
  | .obj fields => .ok fields
  | _ => .error .noFields

/-- The whole number in a line or column field. -/
def wholeOf : Json → Except ReportFault Int
  | .int n => .ok n
  | .bool b => .ok (if b then 1 else 0)
  | .float .nan => .error .undefinedNumber
  | .float x =>
    match x.truncate? with
    | some n => .ok n
    | none => .error .infiniteNumber
  | .str s =>
    match Numeral.toInt s with
    | .ok n => .ok n
    | .error fault => .error (.badNumeral fault)
  | _ => .error .notNumeric

/-- A line or column: at least one, and one where nothing is said. -/
def position (v : Json) : Except ReportFault Int :=
  match v.filled? with
  | none => .ok 1
  | some v => (max · 1) <$> wholeOf v

def finding (filePath : Json) (message : Json) : Except ReportFault Finding := do
  let fields ← fieldsOf message
  let value := fun name => (Json.lookup? name fields).getD .null
  let severity := if (value "severity").equalsInt 2 then Severity.error else .warning
  let line ← position (value "line")
  let column ← position (value "column")
  let text := (Json.lookup? "message" fields).getD (.str "")
  let checked := (fun ruleId filePath text source =>
      Finding.mk ruleId severity filePath line column text (value "fix").isFilled source)
    <$> (Field.optional Field.text (value "ruleId")).under (.field "rule_id")
    <*> (Field.text filePath).under (.field "file_path")
    <*> (Field.text text).under (.field "message")
    <*> (Field.optional Field.text ((value "source").filled?.getD .null)).under (.field "source")
  match checked with
  | .ok d => .ok d
  | .faulty faults => .error (.rejected faults)

def ofFile (entry : Json) : Except ReportFault (List Finding) := do
  let fields ← fieldsOf entry
  let filePath := (Json.lookup? "filePath" fields).getD (.str "")
  let messages ← walk ((Json.lookup? "messages" fields).getD (.arr []))
  messages.mapM (finding filePath)

def findings (report : Json) : Except ReportFault (List Finding) := do
  let entries ← walk report
  return (← entries.mapM ofFile).flatten

end Report
end LintRemedy
