import LintRemedy.Json.Basic

/-!
This module contains the kinds of JSON values and their names.
-/

namespace LintRemedy

inductive ValueKind where
  | null
  | flag
  | whole
  | number
  | text
  | list
  | object
deriving DecidableEq, Repr

def ValueKind.of : Json → ValueKind
  | .null => null
  | .bool _ => flag
  | .int _ => whole
  | .float _ => number
  | .str _ => text
  | .arr _ => list
  | .obj _ => object

def ValueKind.name : ValueKind → String
  | null => "NoneType"
  | flag => "bool"
  | whole => "int"
  | number => "float"
  | text => "str"
  | list => "list"
  | object => "dict"

end LintRemedy
