import LintRemedy.Fault
import LintRemedy.Json.Encoder

/-!
This module contains the schemas of the payloads that are asked of the oracle, and the hint that
describes a schema in the prompt itself.
-/

namespace LintRemedy

/-- The schema of a payload: its properties with their descriptions, and the ones that must not be
missing. -/
structure Schema where
  properties : List (String × Json)
  required : List String
deriving DecidableEq, Repr

namespace Schema

def ofType (name : String) : Json :=
  .obj [("type", .str name)]

def explain : Schema where
  properties := [("problem_description", ofType "string"), ("why_problem", ofType "string"),
    ("how_to_fix", ofType "string"),
    ("priority",
      .obj [("type", .str "string"), ("enum", .arr [.str "low", .str "medium", .str "high"])])]
  required := ["problem_description", "why_problem", "how_to_fix", "priority"]

def fix : Schema where
  properties := [("start_line", ofType "integer"), ("end_line", ofType "integer"),
    ("fixed_code", ofType "string"), ("explanation", ofType "string")]
  required := ["start_line", "end_line", "fixed_code", "explanation"]

/-- The schema of a change of the lint config. -/
def disable : Schema where
  properties := [("modified_config", ofType "string"), ("diff_description", ofType "string")]
  required := ["modified_config", "diff_description"]

def question : Schema where
  properties := [("answer", ofType "string"), ("code_suggestion", ofType "string")]
  required := ["answer"]

def fields (schema : Schema) : List String :=
  schema.properties.map (·.1)

def toJson (schema : Schema) : Json :=
  .obj [("type", .str "object"), ("properties", .obj schema.properties),
    ("required", .arr (schema.required.map .str))]

def readProperties : Option Json → Except Fault Schema
  | none => .ok ⟨[], []⟩
  | some (.obj properties) =>
    match properties.find? fun (_, property) => ValueKind.of property ≠ .object with
    | none => .ok ⟨properties, []⟩
    | some (_, property) => .error (.noField (.of property) "get")
  | some v => .error (.noField (.of v) "items")

def read : Json → Except Fault Schema
  | .obj fields => readProperties (Json.lookup? "properties" fields)
  | v => .error (.noField (.of v) "get")

/-- An object that has the name of its type in the place of every property. -/
def exampleOf (schema : Schema) : Json :=
  .obj (schema.properties.map fun (name, property) =>
    (name, (property.field? "type").getD (.str "string")))

/-- The prompt with a description of the expected object below it. -/
def hint (schema : Schema) (prompt : String) : String :=
  prompt ++ "\n\nRespond in JSON format with these fields:\n" ++ schema.exampleOf.encodeIndented

end Schema
end LintRemedy
