import LintRemedy.Operator.Basic

/-!
This module contains the operator whose decisions are all given beforehand. It quits where they end.
-/

namespace LintRemedy

/-- A selection that is given beforehand. -/
inductive ScriptedChoice where
  /-- The group at a position, counted from the end if it is negative. The work is about the given
  file, or else about the first file of the group. -/
  | group (index : Int) (file : Option (Option String))
  | quit
  | exhausted
  | nothing
deriving DecidableEq, Repr

/-- An action that is given beforehand, its kind by name. -/
structure ScriptedAction where
  kind : String
  indices : List Int := []
  question : String := ""
deriving DecidableEq, Repr

structure Script where
  passParseErrors : Bool := false
  allowRepair : Bool := true
  selections : List ScriptedChoice := []
  actions : List ScriptedAction := []
deriving DecidableEq, Repr

/-- The group at a position, counted from the end if it is negative. -/
def groupAt? {α : Type} (groups : List α) (index : Int) : Option α :=
  if 0 ≤ index then groups[index.toNat]?
  else if -(groups.length : Int) ≤ index then groups[(groups.length + index).toNat]?
  else none

/-- What a given selection chooses from the groups. -/
def ScriptedChoice.apply (groups : List RuleGroup) : ScriptedChoice → Except Fault Choice
  | group index file =>
    match groupAt? groups index with
    | some chosen => .ok (.chosen chosen (file.getD chosen.leadFile?))
    | none => .error .noItem
  | quit => .ok .quit
  | exhausted => .ok .exhausted
  | nothing => .ok .nothing

def ScriptedAction.action (a : ScriptedAction) : Except Fault Action :=
  Action.ofName a.kind a.indices a.question

namespace Operator

def scripted (quiet : Bool) : Operator Script where
  quiet := quiet
  passParseErrors _ := return (← get).passParseErrors
  allowRepair _ := return (← get).allowRepair
  select groups := do
    let script ← get
    match script.selections with
    | [] => return .quit
    | given :: selections =>
      set { script with selections }
      Console.ofExcept (given.apply groups)
  act _ := do
    let script ← get
    match script.actions with
    | [] => return { kind := .quit }
    | given :: actions =>
      set { script with actions }
      Console.ofExcept given.action
  patience script := script.selections.length + script.actions.length

end Operator
end LintRemedy
