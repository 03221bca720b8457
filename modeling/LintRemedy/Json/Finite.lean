import LintRemedy.Json.Basic

/-!
This module contains the check of values for numbers that JSON text cannot hold.
-/

namespace LintRemedy

/-- Whether a number is neither infinite nor undefined. -/
def Binary64.isFinite : Binary64 → Bool
  | finite .. => true
  | _ => false

namespace Json

mutual

def isFinite : Json → Bool
  | float x => x.isFinite
  | arr items => itemsFinite items
  | obj fields => fieldsFinite fields
  | _ => true

/-- Whether all numbers in a list of values are finite. -/
def itemsFinite : List Json → Bool
  | [] => true
  | v :: vs => isFinite v && itemsFinite vs

/-- Whether all numbers in a list of fields are finite. -/
def fieldsFinite : List (String × Json) → Bool
  | [] => true
  | (_, v) :: fields => isFinite v && fieldsFinite fields

end

end Json
end LintRemedy
