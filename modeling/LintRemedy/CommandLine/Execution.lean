import LintRemedy.CommandLine.Command
import LintRemedy.Loop.Course
import LintRemedy.Operator.Automatic
import LintRemedy.Operator.Interactive
import LintRemedy.Results

/-!
This module contains what the commands do. Every command ends with an exit status: zero for success,
one for failure, two for a command line that cannot be read.
-/

namespace LintRemedy

def programVersion : String := "0.3.0"

abbrev ExitStatus := Nat

namespace CommandLine

open Text

/-- Tells about a failure, with a hint if there is any. -/
def fail (message hint : String) : Act ExitStatus := do
  Act.reportError (coloured .red message)
  if hint ≠ "" then Act.reportError (dim hint)
  return 1

def failUnknownProvider (name : String) : Act ExitStatus :=
  fail ("Unknown provider: " ++ name)
    ("Available providers: " ++ ", ".intercalate Provider.names)

/-- Goes on with the value of an action, or tells about the failure of the scan that has ended it.
-/
def withScan {α : Type} (act : Act α) (context : String) (next : α → Act ExitStatus) :
    Act ExitStatus := do
  match ← Act.attempt act with
  | .ok a => next a
  | .error (.scanFailed failure) => fail (context ++ failure.message) ""
  | .error fault => throw fault

/-- Shows what a single scan has found, and saves it. Parse errors are a failure. -/
def showFindings (output : Option String) (found : Aggregation) : Act ExitStatus := do
  if found.hasUnparsed then
    Act.reportError (View.parseErrors found.parseErrors)
    return 1
  Act.report (View.summary found)
  match output.filter (· ≠ "") with
  | none => return 0
  | some path =>
    if ← Results.save path found.toJson then
      Act.report (coloured .green ("Results saved to: " ++ path))
      return 0
    else fail ("Could not write " ++ path) ""

/-- Runs the repair loop with an operator and saves its report. -/
def repair {μ : Type} (settings : Settings) (request : AnalysisRequest) (run : Loop.Request)
    (operator : Operator μ) (memory : μ) : Act ExitStatus := do
  let setup ← Loop.prepare settings operator run
  if ¬ (← setup.channel.isUsable) then
    fail ("Provider not available: " ++ request.provider)
      ("Run `lintpilot status -p " ++ request.provider ++ "` for details")
  else
    let report ← Loop.carryOut setup memory
    if let some path := request.output.filter (· ≠ "") then
      let _ ← Results.save path report.toJson
    if ¬ report.hasFailed then return 0
    else if report.message ≠ "" then fail report.message ""
    else fail ("Run ended with status " ++ report.status.name) ""

/-- The command `analyze`, once its lint config has been found. -/
def analyzeTarget (settings : Settings) (request : AnalysisRequest) : Act ExitStatus := do
  let root := (← get).workDir
  let target := Path.inProject root root request.path
  let analyzer ← Act.ofExcept id
    (Analyzer.ofCommandLine root settings.analyzerCommand (.seconds settings.analyzerTimeLimit))
  if request.raw then
    withScan (analyzer.report target) "" fun entries => do
      Act.report (Json.arr entries).encodeIndented
      return 0
  else if request.once then
    withScan (analyzer.scan target) "" (showFindings request.output)
  else
    let model := (request.model.filter (· ≠ "")).getD settings.model
    let run : Loop.Request := {
      root, target
      provider := request.provider
      model := some model
      config := request.config }
    if request.unattended then
      Act.report (boldColoured .cyan "\nAuto-fix mode enabled\n")
      repair settings request run (.automatic settings.skipBudget false) []
    else
      repair settings request run (.interactive false) ()

def analyze (settings : Settings) (request : AnalysisRequest) : Act ExitStatus := do
  if (Provider.find? request.provider).isNone then failUnknownProvider request.provider
  else
    match ← Act.attempt (ConfigFile.find (← get).workDir request.config) with
    | .ok _ => analyzeTarget settings request
    | .error (.configMissing missing) =>
      fail missing.message "Use --config <path> to specify the config file path"
    | .error fault => throw fault

def fix (settings : Settings) (path : String) : Act ExitStatus := do
  let root := (← get).workDir
  let analyzer ← Act.ofExcept id
    (Analyzer.ofCommandLine root settings.analyzerCommand (.seconds settings.analyzerTimeLimit))
  let target := Path.inProject root root path
  withScan (analyzer.repair target) "ESLint --fix failed: " fun _ => do
    Act.report (coloured .green "ESLint --fix completed")
    return 0

def login (settings : Settings) (provider : String) : Act ExitStatus := do
  match Oracle.Channel.ofName provider none (.seconds settings.oracleTimeLimit) with
  | .error _ => failUnknownProvider provider
  | .ok channel =>
    match ← Act.attempt channel.login with
    | .ok () =>
      Act.report (coloured .green ("Logged in to " ++ provider))
      return 0
    | .error (.refused reason) | .error (.system reason) => fail reason ""
    | .error fault => throw fault

def showStatus (settings : Settings) (provider : Provider) : Act Unit := do
  let channel : Oracle.Channel :=
    ⟨provider, provider.model none, .seconds settings.oracleTimeLimit⟩
  let status ← channel.status
  if status.available then
    Act.report (coloured .green "✓" ++ " " ++ provider.name ++ ": available")
    if status.version ≠ "" then Act.report (dim ("   Version: " ++ status.version))
  else
    Act.report (coloured .yellow "○" ++ " " ++ provider.name ++ ": not available")
  Act.report (dim ("   " ++ status.details))

def showStatuses (settings : Settings) (providers : List Provider) : Act ExitStatus := do
  providers.forM (showStatus settings)
  Act.report ""
  return 0

def status (settings : Settings) (provider : Option String) : Act ExitStatus := do
  Act.report (boldColoured .cyan "\nlintpilot status\n")
  match ← Act.attempt (ConfigFile.find (← get).workDir none) with
  | .ok path => Act.report (coloured .green "✓" ++ " ESLint config: " ++ dim path)
  | .error _ => Act.report (coloured .red "✗" ++ " ESLint config: not found")
  match provider with
  | none => showStatuses settings Provider.all
  | some name =>
    match Provider.find? name with
    | none => failUnknownProvider name
    | some provider => showStatuses settings [provider]

def models (name : String) : Act ExitStatus := do
  match Provider.find? name with
  | none => failUnknownProvider name
  | some provider =>
    Act.report (boldColoured .cyan ("\nModels for " ++ name ++ ":\n"))
    provider.models.forM fun (model, description) => do
      let mark :=
        if model = provider.defaultModel then coloured .green " (default)" else ""
      Act.report ("  " ++ coloured .yellow model ++ mark ++ "  " ++ dim description)
    Act.report ""
    return 0

def perform (settings : Settings) : Command → Act ExitStatus
  | .version => do
    Act.report programVersion
    return 0
  | .help => return 0
  | .analyze request => analyze settings request
  | .fix path => fix settings path
  | .login provider => login settings provider
  | .status provider => status settings provider
  | .models provider => models provider
  | .serve host tcpPort reload => do
    Act.record (.startedService host tcpPort reload)
    return 0

/-- Reads a command line and carries its command out. -/
def run (settings : Settings) (arguments : List String) : Act ExitStatus :=
  match Command.ofArguments settings arguments with
  | .error _ => return 2
  | .ok command => perform settings command

end CommandLine
end LintRemedy
