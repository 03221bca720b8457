import LintRemedy.Aggregation.Grouping
import LintRemedy.World

/-!
This module contains the analyzer: the processes that scan a target and repair it, and what is read
from their output. No other part of the program starts them.
-/

namespace LintRemedy

structure Analyzer where
  /-- The working directory of its processes. -/
  root : String
  command : List String
  timeLimit : TimeLimit
deriving DecidableEq, Repr

namespace Analyzer

/-- The analyzer with a command line that still has to be split. -/
def ofCommandLine (root commandLine : String) (timeLimit : TimeLimit) : Except Fault Analyzer :=
  match Text.shellWords commandLine with
  | .ok command => .ok ⟨root, command, timeLimit⟩
  | .error fault => .error (.badCommand fault)

def scanArguments (target : String) : List String :=
  [target, "--format", "json"]

def repairArguments (target : String) : List String :=
  [target, "--fix"]

/-- The next answer to a command: repairs and scans are answered apart. -/
def takeAnswer (command : List String) : Act AnalyzerAnswer := do
  let world ← get
  if "--fix" ∈ command then
    let (answer, repairs) := nextAnswer world.repairs
    set { world with repairs }
    return answer.getD ⟨.finished 0 "" "", []⟩
  else
    let (answer, scans) := nextAnswer world.scans
    set { world with scans }
    return answer.getD ⟨.programMissing, []⟩

/-- What is made of the outcome of a process. -/
def ended (analyzer : Analyzer) : AnalyzerOutcome → Except Fault (Int × String × String)
  | .programMissing =>
    match analyzer.command with
    | [] => .error .noItem
    | program :: _ => .error (.scanFailed (.programMissing program))
  | .timedOut =>
    match analyzer.timeLimit.number with
    | .ok limit => .error (.scanFailed (.timedOut limit))
    | .error fault => .error (.badTimeLimit fault)
  | .notStarted reason => .error (.scanFailed (.notStarted reason))
  | .finished status stdout stderr => .ok (status, stdout, stderr)

/-- Runs a process of the analyzer and gives its exit status, output and error output. No process is
started with a word or a working directory that it cannot be given. -/
def run (analyzer : Analyzer) (arguments : List String) : Act (Int × String × String) := do
  let command := analyzer.command ++ arguments
  Act.record (.ranAnalyzer command analyzer.root)
  match (← get).launchFault? (command ++ [analyzer.root]) with
  | some fault => throw (.badName fault)
  | none =>
    let answer ← takeAnswer command
    modify (·.afterChanges answer.changes)
    Act.ofExcept id (analyzer.ended answer.outcome)

def readReport (status : Int) (stdout stderr : String) : Except Fault (List Json) :=
  match Text.trim stdout.toList with
  | [] =>
    let detail := Text.trimmed stderr
    .error (.scanFailed (.noOutput
      (if detail = "" then "exit status " ++ toString status else detail)))
  | cs =>
    match Json.decode cs with
    | .ok (.arr entries) => .ok entries
    | .ok _ => .error (.scanFailed .notAList)
    | .error (.malformed cause offset line column) =>
      .error (.scanFailed (.notJson (.malformed cause offset line column)))
    | .error fault => .error (.badJson fault)

/-- The findings in a report. An infinite line or column is not taken for a failure of the
scan. -/
def readFindings (entries : List Json) : Except Fault (List Finding) :=
  match Report.findings (.arr entries) with
  | .ok ds => .ok ds
  | .error .infiniteNumber => .error (.badReport .infiniteNumber)
  | .error fault => .error (.scanFailed (.badReport fault))

/-- Scans a target and gives the report as it is. -/
def report (analyzer : Analyzer) (target : String) : Act (List Json) := do
  let (status, stdout, stderr) ← analyzer.run (scanArguments target)
  Act.ofExcept id (readReport status stdout stderr)

def findings (analyzer : Analyzer) (target : String) : Act (List Finding) := do
  let entries ← analyzer.report target
  Act.ofExcept id (readFindings entries)

def scan (analyzer : Analyzer) (target : String) : Act Aggregation :=
  Aggregation.ofFindings <$> analyzer.findings target

/-- Lets the analyzer repair a target. Findings that are left make the exit status one. -/
def repair (analyzer : Analyzer) (target : String) : Act Int := do
  let (status, _, stderr) ← analyzer.run (repairArguments target)
  if status = 0 ∨ status = 1 then return status
  else throw (.scanFailed (.repairFailed status (Text.trimmed stderr)))

end Analyzer
end LintRemedy
