import LintRemedy.Operator.Basic
import LintRemedy.View.Progress

/-!
This module contains the operator that asks a person at the terminal.
-/

namespace LintRemedy
namespace Operator
namespace Interactive

/-- A numeral fault as a fault of the run. -/
def typed {α : Type} : Except NumeralFault α → Console α
  | .ok a => return a
  | .error fault => throw (.badNumeral fault)

/-- The group that a typed number stands for, counted from one. -/
def numberedGroup? (groups : List RuleGroup) (line : String) :
    Except NumeralFault (Option RuleGroup) := do
  if line = "" ∨ ¬ line.toList.all Text.isDigit then return none
  else
    let number ← Numeral.toInt line
    return if 1 ≤ number then groups[(number - 1).toNat]? else none

/-- Asks for a group for every line that is going to be typed, up to the first that stands for one.
-/
def selectAmong (quiet : Bool) (groups : List RuleGroup) : List String → Console Choice
  | [] => do
    let _ ← Console.ask "Select rule number (or 'q' to quit)" ""
    throw .inputEnded
  | _ :: lines => do
    let line ← Console.ask "Select rule number (or 'q' to quit)" ""
    let line := Text.lowered (Text.trimmed line)
    if line = "q" then return .quit
    match ← typed (numberedGroup? groups line) with
    | some group => return .chosen group group.leadFile?
    | none =>
      Console.announce quiet (Text.coloured .red "Invalid selection")
      selectAmong quiet groups lines

/-- Asks which fixes of a bundle to apply. There may be no usable answer. -/
def chooseReplacements (quiet : Bool) (bundle : Bundle) : Console (Option Action) := do
  if bundle.fixes.isEmpty then
    Console.announce quiet (Text.coloured .yellow "No fixes available for this rule")
    return none
  Console.announce quiet (View.fixChoices bundle)
  let line ← Console.ask "Select fixes (comma-separated, 'a' for all, 'c' to cancel)" "a"
  let line := Text.lowered (Text.trimmed line)
  if line = "c" then return none
  let indices ← typed (Action.typedIndices line bundle.fixes.length)
  if indices.isEmpty then
    Console.announce quiet (Text.coloured .red "No valid fixes selected")
    return none
  return some { kind := .fix, indices }

def chooseDisable (quiet : Bool) (bundle : Bundle) : Console (Option Action) := do
  if bundle.disable.modifiedConfig = "" then
    Console.announce quiet (Text.coloured .yellow "No config change available for this rule")
    return none
  Console.announce quiet ("\n" ++ bundle.disable.description)
  if ← Console.confirm "Apply this config change?" false then return some { kind := .disable }
  else return none

def chooseIgnore : Console (Option Action) := do
  let line ← Console.ask "Ignore with [1] line comment or [2] file comment ('c' to cancel)" "c"
  match Text.lowered (Text.trimmed line) with
  | "1" => return some { kind := .ignoreLine }
  | "2" => return some { kind := .ignoreFile }
  | _ => return none

def chooseQuestion : Console (Option Action) := do
  let question := Text.trimmed (← Console.ask "Question" "")
  if question = "" then return none
  else return some { kind := .ask, question }

def chooseAction (quiet : Bool) (bundle : Bundle) : Console (Option Action) := do
  Console.announce quiet View.actionMenu
  let line ← Console.ask "Select action" ""
  match Text.lowered (Text.trimmed line) with
  | "f" => chooseReplacements quiet bundle
  | "d" => chooseDisable quiet bundle
  | "i" => chooseIgnore
  | "a" => chooseQuestion
  | "s" => return some { kind := .skip }
  | "q" => return some { kind := .quit }
  | _ =>
    Console.announce quiet (Text.coloured .red "Invalid action")
    return none

/-- Asks what to do with a bundle, at most as often as the first argument says. Each time at least
one line is typed. -/
def actWithin (quiet : Bool) (bundle : Bundle) : Nat → Console Action
  | 0 => throw .inputEnded
  | n + 1 => do
    match ← chooseAction quiet bundle with
    | some action => return action
    | none => actWithin quiet bundle n

end Interactive

def interactive (quiet : Bool) : Operator Unit where
  quiet := quiet
  passParseErrors errors := do
    Console.announce quiet (View.parseErrors errors)
    Console.confirm "Continue anyway?" false
  allowRepair summary :=
    Console.confirm
      ("Run eslint --fix for " ++ toString summary.fixable ++ " auto-fixable issues?") true
  select groups := do
    Console.announce quiet (View.rulesMenu groups)
    let lines := (← (get : Console Terminal)).keyboard
    Interactive.selectAmong quiet groups lines
  act bundle := do
    Console.announce quiet (View.bundle bundle)
    let lines := (← (get : Console Terminal)).keyboard
    Interactive.actWithin quiet bundle (lines.length + 1)

end Operator
end LintRemedy
