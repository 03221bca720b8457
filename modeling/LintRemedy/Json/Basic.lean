import LintRemedy.Number.Binary64

/-!
This module contains JSON values. Whole numbers and binary numbers are told apart, and the fields of
an object keep their order.
-/

namespace LintRemedy

inductive Json where
  | null
  | bool (value : Bool)
  | int (value : Int)
  | float (value : Binary64)
  | str (value : String)
  | arr (items : List Json)
  | obj (fields : List (String × Json))
deriving Inhabited, Repr

namespace Json

mutual

/-- Decides the equality of two values. -/
def decEq : (a b : Json) → Decidable (a = b)
  | .null, .null => isTrue rfl
  | .bool a, .bool b => if h : a = b then isTrue (by rw [h]) else isFalse (by simpa using h)
  | .int a, .int b => if h : a = b then isTrue (by rw [h]) else isFalse (by simpa using h)
  | .float a, .float b => if h : a = b then isTrue (by rw [h]) else isFalse (by simpa using h)
  | .str a, .str b => if h : a = b then isTrue (by rw [h]) else isFalse (by simpa using h)
  | .arr a, .arr b =>
    match decEqItems a b with
    | isTrue h => isTrue (by rw [h])
    | isFalse h => isFalse (by simpa using h)
  | .obj a, .obj b =>
    match decEqFields a b with
    | isTrue h => isTrue (by rw [h])
    | isFalse h => isFalse (by simpa using h)
  | .null, .bool _ | .null, .int _ | .null, .float _ | .null, .str _ | .null, .arr _
  | .null, .obj _ | .bool _, .null | .bool _, .int _ | .bool _, .float _ | .bool _, .str _
  | .bool _, .arr _ | .bool _, .obj _ | .int _, .null | .int _, .bool _ | .int _, .float _
  | .int _, .str _ | .int _, .arr _ | .int _, .obj _ | .float _, .null | .float _, .bool _
  | .float _, .int _ | .float _, .str _ | .float _, .arr _ | .float _, .obj _ | .str _, .null
  | .str _, .bool _ | .str _, .int _ | .str _, .float _ | .str _, .arr _ | .str _, .obj _
  | .arr _, .null | .arr _, .bool _ | .arr _, .int _ | .arr _, .float _ | .arr _, .str _
  | .arr _, .obj _ | .obj _, .null | .obj _, .bool _ | .obj _, .int _ | .obj _, .float _
  | .obj _, .str _ | .obj _, .arr _ => isFalse (by simp)

/-- Decides the equality of two lists of values. -/
def decEqItems : (a b : List Json) → Decidable (a = b)
  | [], [] => isTrue rfl
  | [], _ :: _ | _ :: _, [] => isFalse (by simp)
  | a :: as, b :: bs =>
    match decEq a b, decEqItems as bs with
    | isTrue h, isTrue h' => isTrue (by rw [h, h'])
    | isFalse h, _ => isFalse (by simp [h])
    | _, isFalse h => isFalse (by simp [h])

def decEqFields : (a b : List (String × Json)) → Decidable (a = b)
  | [], [] => isTrue rfl
  | [], _ :: _ | _ :: _, [] => isFalse (by simp)
  | (k, a) :: as, (l, b) :: bs =>
    match decEq a b, decEqFields as bs with
    | isTrue h, isTrue h' =>
      if hk : k = l then isTrue (by rw [h, h', hk]) else isFalse (by simp [hk])
    | isFalse h, _ => isFalse (by simp [h])
    | _, isFalse h => isFalse (by simp [h])

end

instance : DecidableEq Json := decEq

/-- The value of a field in a list of fields. -/
def lookup? (name : String) : List (String × Json) → Option Json
  | [] => none
  | (key, value) :: fields => if key = name then some value else lookup? name fields

/-- The fields with one of them set: in its place if there is one of this name, else at the end. -/
def setField (name : String) (value : Json) : List (String × Json) → List (String × Json)
  | [] => [(name, value)]
  | (key, old) :: fields =>
    if key = name then (key, value) :: fields else (key, old) :: setField name value fields

/-- The fields without repeated names. The last value of a name counts, at its first place. -/
def distinctFields (fields : List (String × Json)) : List (String × Json) :=
  fields.foldl (fun done (name, value) => setField name value done) []

/-- The value of a field of an object. Other values have no fields. -/
def field? (name : String) : Json → Option Json
  | obj fields => lookup? name fields
  | _ => none

/-- The value of a field, `null` where there is none. -/
def field (name : String) (value : Json) : Json :=
  (value.field? name).getD null

/-- Whether the value is an object with a field of this name. -/
def hasField (name : String) (value : Json) : Bool :=
  (value.field? name).isSome

/-- Whether a value says something: it is not `null`, `false`, a zero or empty. -/
def isFilled : Json → Bool
  | null => false
  | bool value => value
  | int value => value ≠ 0
  | float value => !value.isZero
  | str value => value ≠ ""
  | arr items => !items.isEmpty
  | obj fields => !fields.isEmpty

def filled? (value : Json) : Option Json :=
  if value.isFilled then some value else none

/-- Whether the value is a number equal to a whole number. -/
def equalsInt (n : Int) : Json → Bool
  | int value => value = n
  | float value => value.toInt? = some n
  | bool value => (if value then 1 else 0) = n
  | _ => false

def str? : Json → Option String
  | str value => some value
  | _ => none

/-- The text of a string value that is not empty. -/
def nonEmptyStr? : Json → Option String
  | str value => if value = "" then none else some value
  | _ => none

end Json
end LintRemedy
