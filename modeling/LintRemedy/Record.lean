import LintRemedy.Json.Basic
import LintRemedy.Number.Loose

/-!
This module contains the reading of typed records out of JSON objects. Every field is checked, and
all faults are reported together, in the order of the fields.
-/

namespace LintRemedy

/-- A step from a value to one inside it. -/
inductive Step where
  | field (name : String)
  | item (index : Nat)
deriving DecidableEq, Repr

inductive FieldCause where
  | missing
  | notText
  | notAmongChoices
  | unreadableWhole
  | longWhole
  | fractional
  | notWhole
  | notFinite
  | unreadableFlag
  | notFlag
  | notList
  | notRecord
  | notObject
  | unreadableBody
deriving DecidableEq, Repr

def FieldCause.name : FieldCause → String
  | missing => "missing"
  | notText => "string_type"
  | notAmongChoices => "literal_error"
  | unreadableWhole => "int_parsing"
  | longWhole => "int_parsing_size"
  | fractional => "int_from_float"
  | notWhole => "int_type"
  | notFinite => "finite_number"
  | unreadableFlag => "bool_parsing"
  | notFlag => "bool_type"
  | notList => "list_type"
  | notRecord => "model_type"
  | notObject => "model_attributes_type"
  | unreadableBody => "json_invalid"

/-- A fault and the way to the value that has it. -/
structure FieldFault where
  place : List Step
  cause : FieldCause
deriving DecidableEq, Repr

/-- A checked value, or all faults that were found. -/
inductive Checked (α : Type) where
  | ok (value : α)
  | faulty (faults : List FieldFault)
deriving Repr

namespace Checked

def faults {α : Type} : Checked α → List FieldFault
  | ok _ => []
  | faulty faults => faults

instance : Functor Checked where
  map f
    | ok a => ok (f a)
    | faulty faults => faulty faults

/-- Applies a checked function. The faults of both sides are kept. -/
def ap {α β : Type} : Checked (α → β) → Checked α → Checked β
  | ok f, ok a => ok (f a)
  | f, a => faulty (f.faults ++ a.faults)

instance : Applicative Checked where
  pure := ok
  seq f a := ap f (a ())

/-- A single fault at the value itself. -/
def fault {α : Type} (cause : FieldCause) : Checked α :=
  faulty [⟨[], cause⟩]

/-- The checked value one step further from where it is reported. -/
def under {α : Type} (step : Step) : Checked α → Checked α
  | ok a => ok a
  | faulty faults => faulty (faults.map fun f => { f with place := step :: f.place })

end Checked

namespace Field

def text : Json → Checked String
  | .str s => .ok s
  | _ => .fault .notText

def optional {α : Type} (read : Json → Checked α) : Json → Checked (Option α)
  | .null => .ok none
  | v => some <$> read v

/-- The whole number of a binary number that fits into 64 bits with the sign. -/
def wholeOfBinary (x : Binary64) : Checked Int :=
  match x with
  | .finite .. =>
    match x.toInt? with
    | none => .fault .fractional
    | some n => if n.natAbs < 0x8000000000000000 then .ok n else .fault .longWhole
  | _ => .fault .notFinite

/-- A whole number, also one that is written as a text, as a binary number or as a flag. -/
def whole : Json → Checked Int
  | .int n => .ok n
  | .bool b => .ok (if b then 1 else 0)
  | .float x => wholeOfBinary x
  | .str s =>
    match Numeral.loose s with
    | .ok n => .ok n
    | .error .unreadable => .fault .unreadableWhole
    | .error .tooLong => .fault .longWhole
  | _ => .fault .notWhole

def flagWord? (s : String) : Option Bool :=
  let word := Text.lowered s
  if word ∈ ["0", "off", "f", "false", "n", "no"] then some false
  else if word ∈ ["1", "on", "t", "true", "y", "yes"] then some true
  else none

def flagOfWhole (n : Int) : Checked Bool :=
  if n = 0 then .ok false else if n = 1 then .ok true else .fault .unreadableFlag

/-- A flag, also one that is written as zero or one or as a word. A number that does not fit into 64
bits is none. -/
def flag : Json → Checked Bool
  | .bool b => .ok b
  | .int n =>
    if -0x8000000000000000 ≤ n ∧ n < 0x8000000000000000 then flagOfWhole n else .fault .notFlag
  | .float x =>
    match wholeOfBinary x with
    | .ok n => flagOfWhole n
    | .faulty _ => .fault .notFlag
  | .str s => (flagWord? s).elim (.fault .unreadableFlag) .ok
  | _ => .fault .notFlag

def choice {α : Type} (read? : String → Option α) : Json → Checked α
  | .str s => (read? s).elim (.fault .notAmongChoices) .ok
  | _ => .fault .notAmongChoices

def items {α : Type} (read : Json → Checked α) (index : Nat) : List Json → Checked (List α)
  | [] => .ok []
  | v :: vs => List.cons <$> (read v).under (.item index) <*> items read (index + 1) vs

def list {α : Type} (read : Json → Checked α) : Json → Checked (List α)
  | .arr vs => items read 0 vs
  | _ => .fault .notList

/-- A record. The fields are read by `read`. -/
def record {α : Type} (read : List (String × Json) → Checked α) : Json → Checked α
  | .obj fields => read fields
  | _ => .fault .notRecord

def required {α : Type} (read : Json → Checked α) (name : String) (fields : List (String × Json)) :
    Checked α :=
  match Json.lookup? name fields with
  | some v => (read v).under (.field name)
  | none => .faulty [⟨[.field name], .missing⟩]

def withDefault {α : Type} (default : α) (read : Json → Checked α) (name : String)
    (fields : List (String × Json)) : Checked α :=
  match Json.lookup? name fields with
  | some v => (read v).under (.field name)
  | none => .ok default

end Field
end LintRemedy
