import LintRemedy.Bundle.Basic
import LintRemedy.Path
import LintRemedy.Text.Lines
import LintRemedy.Text.Style
import LintRemedy.RuleGroup

/-!
This module contains the views that are shown on the terminal: the summary of a run, the menus, the
bundle of remedies and the messages on the way.
-/

namespace LintRemedy
namespace View

open Text

def rule (c : Char) (weight : Option Bool) : String :=
  Style.apply { colour := some .cyan, bold := weight } (String.ofList (List.replicate 64 c))

def heavyRule : String :=
  rule '═' (some true)

/-- A heading of a section with a line to its right. -/
def heading (title : String) (width : Nat) : String :=
  dim ("── " ++ title ++ " " ++ String.ofList (List.replicate width '─'))

def repairLabel (group : RuleGroup) : String :=
  if group.autoFixable then coloured .green "[auto-fix]" else coloured .yellow "[manual]"

def number (colour : Colour) (n : Int) : String :=
  coloured colour (toString n)

def summaryLine (group : RuleGroup) : String :=
  let name := match group.ruleId with
    | some rule => if rule = "" then "(parsing error)" else rule
    | none => "(parsing error)"
  "   • " ++ name ++ " (" ++ toString group.count ++ ") - " ++ group.severity.name ++ " "
    ++ repairLabel group

def summary (a : Aggregation) : String :=
  let s := a.summary
  unlines (["", heavyRule, boldColoured .cyan "                    Lint Analysis Summary",
    heavyRule, "", coloured .yellow "Summary (ESLint results)",
    "   Total issues: " ++ bold (toString s.totalIssues) ++ " (errors: " ++ number .red s.errors
      ++ ", warnings: " ++ number .yellow s.warnings ++ ")",
    "   ├─ Auto-fixable: " ++ number .green s.fixable ++ " (eslint --fix)",
    "   └─ Manual fix: " ++ number .yellow (s.totalIssues - s.fixable) ++ " (AI assisted)",
    "   Unique rules: " ++ bold (toString s.uniqueRules),
    "", coloured .yellow "Rules"] ++ a.rules.map summaryLine ++ [""])

def parseErrors (errors : List ParseError) : String :=
  unlines (boldColoured .red "\nParsing errors found!" :: errors.map fun e =>
    dim ("  " ++ e.file ++ ":" ++ toString e.line ++ " - " ++ e.message))

def menuLine (group : RuleGroup) (number : Nat) : String :=
  let colour : Colour := if group.severity = .error then .red else .yellow
  "  " ++ coloured .cyan ("[" ++ toString number ++ "]") ++ " " ++ group.ruleId.getD "None" ++ " "
    ++ coloured colour ("(" ++ group.severity.name ++ ")") ++ " - " ++ toString group.count
    ++ " issues " ++ repairLabel group

def rulesMenu (groups : List RuleGroup) : String :=
  unlines (["", heavyRule, boldColoured .cyan "              Select a Rule to Process", heavyRule,
    ""]
    ++ (groups.zipIdx 1).map (fun (group, i) => menuLine group i) ++ [""])

def span (fix : Replacement) : String :=
  if fix.startLine = fix.endLine then toString fix.startLine
  else toString fix.startLine ++ "-" ++ toString fix.endLine

def fixPreview (fix : Replacement) : List String :=
  [bold (Path.shortName fix.file ++ ":" ++ span fix), coloured .red "   Original:"]
    ++ (lines fix.old).map (fun line => coloured .red ("   - " ++ line))
    ++ [coloured .green "   Fixed:"]
    ++ (lines fix.new).map (fun line => coloured .green ("   + " ++ line))
    ++ [dim ("   └ " ++ fix.explanation), ""]

def bundle (b : Bundle) : String :=
  unlines (["", rule '═' (some false),
    bold "Rule:" ++ " " ++ coloured .yellow b.ruleId ++ " (" ++ toString b.count ++ " fixes)",
    bold "Severity:" ++ " " ++ b.severity.name ++ " | " ++ bold "Priority:" ++ " "
      ++ b.explain.priority.name,
    "", heading "AI Analysis" 49,
    bold "Problem:" ++ " " ++ b.explain.problem,
    bold "Why:" ++ " " ++ b.explain.reason,
    bold "How to fix:" ++ " " ++ b.explain.guidance,
    "", heading "[f] Fix Preview (AI generated)" 30]
    ++ b.fixes.flatMap fixPreview
    ++ [heading "[d] Disable Preview (AI generated)" 26,
    "   " ++ b.disable.description,
    "", heading "[i] Ignore Options" 42,
    "   [1] Line: // eslint-disable-next-line " ++ b.ruleId,
    "   [2] File: /* eslint-disable " ++ b.ruleId ++ " */",
    ""])

def actionMenu : String :=
  let sure := coloured .green "[deterministic]"
  let unsure := coloured .magenta "[non-deterministic]"
  let key := fun k => "  " ++ coloured .yellow ("[" ++ k ++ "]")
  unlines [rule '─' none,
    key "f" ++ " Fix      - Apply AI-generated fix          " ++ sure,
    key "d" ++ " Disable  - Apply config change             " ++ sure,
    key "i" ++ " Ignore   - Add eslint-disable comment      " ++ sure,
    key "a" ++ " Ask AI   - Ask additional questions        " ++ unsure,
    key "s" ++ " Skip     - Skip this rule                  " ++ sure,
    key "q" ++ " Quit     - Exit                            " ++ sure,
    rule '─' none]

def fixChoices (b : Bundle) : String :=
  unlines (coloured .cyan ("\nApply fixes (" ++ toString b.fixes.length ++ " available):")
    :: (b.fixes.zipIdx 1).map fun (fix, i) =>
      "  " ++ toString i ++ ") " ++ Path.shortName fix.file ++ ":" ++ toString fix.startLine)

def answer (a : Answer) : String :=
  let suggestion := match a.suggestion with
    | some s => if s = "" then [] else [coloured .green "\nCode suggestion:", s]
    | none => []
  unlines ([coloured .green "\nAI Response:", a.answer] ++ suggestion)

def fileSwitch (previous current : String) : String :=
  dim ("[Session] Switching file: " ++ Path.shortName previous ++ " → " ++ Path.shortName current)

def totals (fixed skipped : Int) : String :=
  unlines [coloured .cyan ("Total fixed: " ++ toString fixed),
    coloured .yellow ("Total skipped: " ++ toString skipped)]

end View
end LintRemedy
