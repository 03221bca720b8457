import LintRemedy.Json.Rendering
import LintRemedy.Number.Shortest
import LintRemedy.Text.Quoted

/-!
This module contains the display form of JSON values that is shown to people: strings inside a value
are quoted, and the three constants are written `None`, `True` and `False`. A value that goes too
deep or holds a whole number with too many digits has none.
-/

namespace LintRemedy
namespace Json

/-- The form of a value inside another one, for values that have one. -/
def form : Json → String
  | null => "None"
  | bool value => if value then "True" else "False"
  | int value => toString value
  | float value => value.text
  | str value => Text.quoted value
  | arr items => "[" ++ ", ".intercalate (formItems items) ++ "]"
  | obj fields => "\x7b" ++ ", ".intercalate (formFields fields) ++ "\x7d"
where
  formItems : List Json → List String
    | [] => []
    | item :: items => form item :: formItems items
  formFields : List (String × Json) → List String
    | [] => []
    | (name, value) :: fields =>
      (Text.quoted name ++ ": " ++ form value) :: formFields fields

def inspect (value : Json) : Except RenderFault String :=
  match value.obstacle? .display with
  | some fault => .error fault
  | none => .ok value.form

/-- The display form of a value. A string on its own is shown as it is. -/
def display : Json → Except RenderFault String
  | str value => .ok value
  | value => value.inspect

end Json
end LintRemedy
