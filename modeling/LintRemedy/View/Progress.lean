import LintRemedy.RunRecord
import LintRemedy.View.Report

/-!
This module contains the views that tell how a run of the repair loop goes on.
-/

namespace LintRemedy
namespace View

open Text

def scanning (iteration : Int) : String :=
  coloured .cyan ("\nRunning ESLint (pass " ++ toString iteration ++ ")...")

/-- The analyzer has repaired what it can, or has failed for a reason. -/
def repairEnded (status : Option Int) (reason : String) : String :=
  let status := (status.map toString).getD "None"
  if reason = "" then coloured .green ("eslint --fix completed (exit " ++ status ++ ")")
  else coloured .red ("eslint --fix failed: " ++ reason)

def ruleName (group : RuleGroup) : String :=
  group.ruleId.getD "None"

/-- The oracle is going to be asked about a group. -/
def generating (group : RuleGroup) : String :=
  coloured .cyan ("\nGenerating AI analysis for " ++ ruleName group ++ " (" ++ toString group.count
    ++ " issues)...")

def noBundle (group : RuleGroup) : String :=
  coloured .yellow ("No fix generated for " ++ ruleName group)

/-- An action has been carried out. -/
def applied (message : String) (ok : Bool) : String :=
  coloured (if ok then .green else .red) message

/-- The answer to a question, or that there is none. -/
def answered : Option Answer → String
  | none => coloured .red "Failed to get an answer"
  | some a => answer a

def finished (report : RunRecord) : List String :=
  (if report.message = "" then [] else [coloured .cyan ("\n" ++ report.message)])
    ++ [totals report.totalFixed report.totalSkipped]

def target (file : String) (group : RuleGroup) : String :=
  coloured .cyan ("\nTarget: " ++ Path.shortName file ++ " / " ++ ruleName group ++ " ("
    ++ toString group.count ++ " issues)")

end View
end LintRemedy
