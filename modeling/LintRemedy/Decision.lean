import LintRemedy.Fault
import LintRemedy.Text.Search
import LintRemedy.RuleGroup

/-!
This module contains the decisions on which the repair loop depends: which rule group comes next,
and what is done with its bundle.
-/

namespace LintRemedy

/-- What is chosen from a list of rule groups. -/
inductive Choice where
  /-- A group, with the file that the work is about if there is a particular one. -/
  | chosen (group : RuleGroup) (file : Option String)
  | quit
  /-- There is nothing left that is worth another try. -/
  | exhausted
  | nothing
deriving DecidableEq, Repr

def Choice.group? : Choice → Option RuleGroup
  | chosen group _ => some group
  | _ => none

/-- The file that the chosen work is about. -/
def Choice.file? : Choice → Option String
  | chosen _ file => file
  | _ => none

inductive ActionKind where
  | fix
  | disable
  | ignoreLine
  | ignoreFile
  | ask
  | skip
  | quit
deriving DecidableEq, Repr

def ActionKind.name : ActionKind → String
  | fix => "fix"
  | disable => "disable"
  | ignoreLine => "ignore_line"
  | ignoreFile => "ignore_file"
  | ask => "ask"
  | skip => "skip"
  | quit => "quit"

def ActionKind.ofName? : String → Option ActionKind
  | "fix" => some fix
  | "disable" => some disable
  | "ignore_line" => some ignoreLine
  | "ignore_file" => some ignoreFile
  | "ask" => some ask
  | "skip" => some skip
  | "quit" => some quit
  | _ => none

structure Action where
  kind : ActionKind
  /-- The positions of the fixes to apply. -/
  indices : List Int := []
  question : String := ""
deriving DecidableEq, Repr

namespace Action

/-- The action of a kind that is given by its name. -/
def ofName (name : String) (indices : List Int) (question : String) : Except Fault Action :=
  match ActionKind.ofName? name with
  | some kind => .ok { kind, indices, question }
  | none => .error (.unknownAction name)

/-- Adds the position that a typed entry stands for, counted from one, unless it is out of range or
there already. An entry that is not made of digits is passed over. -/
def addTyped (count : Int) (done : List Int) (entry : List Char) :
    Except NumeralFault (List Int) := do
  let entry := Text.trim entry
  if entry.isEmpty ∨ ¬ entry.all Text.isDigit then return done
  else
    let index := (← Numeral.toInt (String.ofList entry)) - 1
    return if 0 ≤ index ∧ index < count ∧ index ∉ done then done ++ [index] else done

/-- The positions of fixes that are typed: all of them, or a list with commas. -/
def typedIndices (typed : String) (count : Int) : Except NumeralFault (List Int) :=
  let typed := Text.lowered (Text.trimmed typed)
  if typed = "a" ∨ typed = "all" then .ok ((List.range count.toNat).map Int.ofNat)
  else (Text.splitAt ',' typed.toList).foldlM (addTyped count) []

end Action
end LintRemedy
