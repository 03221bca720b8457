import LintRemedy.Analyzer
import LintRemedy.Bundle.Generation
import LintRemedy.ConfigFile
import LintRemedy.Loop.State
import LintRemedy.Operator.Basic
import LintRemedy.Patch.Basic
import LintRemedy.View.Progress

/-!
This module contains runs of the repair loop. In every phase something is done that leads to one
event, and the phase that follows holds just what is known then: no finding outlives a scan. The
operator makes the decisions, and everything else is done here.
-/

namespace LintRemedy
namespace Loop

/-- A phase of a run: a state with what is known in it. -/
inductive Phase where
  | scan
  | parseError (found : Aggregation)
  | clean
  | hasFindings (found : Aggregation)
  | repairOffered (found : Aggregation)
  | selectRule (found : Aggregation)
  | gather (group : RuleGroup) (file : Option String)
  | present (group : RuleGroup) (file : Option String) (bundle : Bundle)
  | done
  | quit
deriving DecidableEq, Repr

def Phase.state : Phase → State
  | scan => .scan
  | parseError _ => .parseError
  | clean => .clean
  | hasFindings _ => .hasFindings
  | repairOffered _ => .repairOffered
  | selectRule _ => .selectRule
  | gather .. => .gather
  | present .. => .present
  | done => .done
  | quit => .quit

/-- What happens in a state: an event, and the phase to which it leads according to the table. -/
structure Occurrence (state : State) where
  event : Event
  phase : Phase
  isTransition : state.next? event = some phase.state := by rfl

structure Setup (μ : Type) where
  operator : Operator μ
  analyzer : Analyzer
  channel : Oracle.Channel
  /-- The name of the lint config. -/
  config : String
  target : String
  /-- The number of lines that the oracle is shown on each side of a finding. -/
  window : Int

structure Run (μ : Type) where
  talk : Talk
  memory : μ
  report : RunRecord := {}
  phase : Phase := .scan
  /-- The counts before the last time that the analyzer was allowed to repair. -/
  repairSummary : Option Summary := none
  /-- The counts when nothing was left to choose from, unless there was something since. -/
  idleSummary : Option Summary := none

abbrev Step (μ : Type) := EStateM Fault (Run μ)

namespace Step

variable {μ α : Type}

/-- A part of the conversation with the oracle as an action in a run. -/
def ofDialogue (dialogue : Dialogue α) : Step μ α := fun run =>
  match dialogue run.talk with
  | .ok a talk => .ok a { run with talk }
  | .error fault talk => .error fault { run with talk }

/-- An action of the world as an action in a run. -/
def ofAct (act : Act α) : Step μ α :=
  ofDialogue (Dialogue.ofAct act)

/-- A decision of the operator as an action in a run. -/
def ofDecision (decision : Deciding μ α) : Step μ α := do
  let (a, memory) ← ofAct (Act.ofConsole (decision (← get).memory))
  modify fun run => { run with memory }
  return a

def report (change : RunRecord → RunRecord) : Step μ Unit :=
  modify fun run => { run with report := change run.report }

end Step

variable {μ : Type} (setup : Setup μ)

/-- Shows a line unless the operator is quiet. -/
def announce (text : String) : Step μ Unit :=
  Step.ofAct (Act.ofConsole (Console.announce setup.operator.quiet text))

/-- Counts what came of the work on a selection. -/
def settle (group : RuleGroup) (file : Option String) (fixed skipped : Int) : Step μ Unit :=
  modify fun run => { run with
    memory := setup.operator.settle (.chosen group file) fixed skipped run.memory
    report.totalFixed := run.report.totalFixed + fixed
    report.totalSkipped := run.report.totalSkipped + skipped }

def scan : Step μ (Occurrence .scan) := do
  Step.report fun report => { report with iterations := report.iterations + 1 }
  announce setup (View.scanning (← get).report.iterations)
  match ← Step.ofAct (Act.attempt (setup.analyzer.scan setup.target)) with
  | .error (.scanFailed failure) =>
    Step.report fun report =>
      { report with status := .scanFailed, message := failure.message }
    return { event := .scanFailed, phase := .quit }
  | .error fault => throw fault
  | .ok found =>
    Step.report fun report => { report with lastResult := some found }
    announce setup (View.summary found)
    if found.hasUnparsed then
      return { event := .parseErrorsFound, phase := .parseError found }
    else if found.summary.totalIssues = 0 then
      return { event := .noIssues, phase := .clean }
    else
      return { event := .issuesFound, phase := .hasFindings found }

/-- Asks whether to go on in spite of files that could not be parsed. -/
def meetParseErrors (found : Aggregation) : Step μ (Occurrence .parseError) := do
  if ← Step.ofDecision (setup.operator.passParseErrors found.parseErrors) then
    return { event := .goOn, phase := .hasFindings found }
  else
    let count := toString found.parseErrors.length
    Step.report fun report => { report with
      status := .parseError
      message := count ++ " parsing error(s) found. Fix them first." }
    return { event := .halt, phase := .quit }

def endClean : Step μ (Occurrence .clean) := do
  Step.report fun report => { report with message := "No issues found!" }
  return { event := .finished, phase := .done }

/-- Decides whether a repair is offered: not if the counts are those before the last one. -/
def meetFindings (found : Aggregation) : Step μ (Occurrence .hasFindings) := do
  if 0 < found.summary.fixable ∧ (← get).repairSummary ≠ some found.summary then
    return { event := .fixablePresent, phase := .repairOffered found }
  else
    return { event := .noneFixable, phase := .selectRule found }

/-- Lets the analyzer repair what it can, if that is allowed. -/
def offerRepair (found : Aggregation) : Step μ (Occurrence .repairOffered) := do
  if ← Step.ofDecision (setup.operator.allowRepair found.summary) then
    modify fun run => { run with repairSummary := some found.summary }
    match ← Step.ofAct (Act.attempt (setup.analyzer.repair setup.target)) with
    | .error (.scanFailed failure) =>
      announce setup (View.repairEnded none failure.message)
      return { event := .repairFailed, phase := .selectRule found }
    | .error fault => throw fault
    | .ok status =>
      announce setup (View.repairEnded (some status) "")
      return { event := .repairApplied, phase := .scan }
  else
    return { event := .repairDeclined, phase := .selectRule found }

/-- Decides which group comes next. When there is none to choose from twice with the same counts,
the run is done. -/
def selectRule (found : Aggregation) : Step μ (Occurrence .selectRule) := do
  if found.selectable.isEmpty then
    if (← get).idleSummary = some found.summary then
      Step.report fun report =>
        { report with message := "No remaining issues can be fixed with AI assistance." }
      return { event := .stalled, phase := .done }
    else
      modify fun run => { run with idleSummary := some found.summary }
      return { event := .nothingSelectable, phase := .scan }
  else
    modify fun run => { run with idleSummary := none }
    match ← Step.ofDecision (setup.operator.select found.selectable) with
    | .quit => return { event := .quitRequested, phase := .quit }
    | .chosen group file => return { event := .ruleSelected, phase := .gather group file }
    | .exhausted | .nothing =>
      Step.report fun report => { report with
        status := .exhausted
        message := "All remaining rules were skipped too many times." }
      return { event := .exhausted, phase := .quit }

/-- The file that work on a selection is about. -/
def workFile? (group : RuleGroup) (file : Option String) : Option String :=
  match file.filter (· ≠ "") with
  | some name => some name
  | none => group.leadFile?

/-- Turns the conversation with the oracle to a file. -/
def turnTo (file : Option String) : Step μ Unit := do
  let previous := (← get).talk.conversation.file
  let (dropped, conversation) := (← get).talk.conversation.turnTo file
  modify fun run => { run with talk.conversation := conversation }
  if dropped then
    announce setup (View.fileSwitch (previous.getD "") (file.getD ""))

/-- Lets the oracle make a bundle. -/
def gather (group : RuleGroup) (file : Option String) : Step μ (Occurrence .gather) := do
  turnTo setup (workFile? group file)
  announce setup (View.generating group)
  let config ← Step.ofAct (ConfigFile.read setup.config)
  match ← Step.ofDialogue (Remedy.gather setup.channel setup.window group config) with
  | some bundle => return { event := .bundleReady, phase := .present group file bundle }
  | none =>
    announce setup (View.noBundle group)
    settle setup group file 0 1
    return { event := .noBundle, phase := .scan }

/-- The chosen fixes of a bundle. A position out of range is passed over. -/
def chosenFixes (fixes : List Replacement) (indices : List Int) : List Replacement :=
  indices.filterMap fun i => if 0 ≤ i then fixes[i.toNat]? else none

/-- The distinct lines of the locations by file, the last line of a file first, so that a comment
above one of them does not shift those that are still to come. -/
def suppressionTargets (locations : List Location) : List (String × Int) :=
  (distinct (locations.map fun l => (l.fileFull, l.line))).mergeSort fun a b =>
    a.1 < b.1 ∨ (a.1 = b.1 ∧ b.2 ≤ a.2)

/-- The number of values for which an action succeeds. -/
def countSuccess {α : Type} (act : α → Act Bool) : List α → Act Nat
  | [] => return 0
  | a :: rest => do
    let success ← act a
    let others ← countSuccess act rest
    return if success then others + 1 else others

/-- The number of fixes and skips, with a message. -/
structure Outcome where
  fixed : Int
  skipped : Int
  message : String
  ok : Bool
deriving DecidableEq, Repr

/-- The outcome of comments at a number of places. -/
def Outcome.ofComments (kind rule : String) (done total : Nat) : Outcome where
  fixed := done
  skipped := total - done
  message := "Added " ++ toString done ++ " " ++ kind ++ " comment(s) for " ++ rule
  ok := 0 < done

def perform (config : String) (group : RuleGroup) (bundle : Bundle) (action : Action) :
    Act Outcome := do
  let rule := bundle.ruleId
  match action.kind with
  | .fix =>
    let counts ← Patch.replaceAll (chosenFixes bundle.fixes action.indices)
    let message := "Applied " ++ toString counts.success ++ " fix(es), " ++ toString counts.failed
      ++ " failed, " ++ toString counts.skipped ++ " skipped"
    return ⟨counts.success, counts.failed + counts.skipped, message, 0 < counts.success⟩
  | .disable =>
    if ← Patch.overwrite config bundle.disable.modifiedConfig then
      return ⟨1, 0, "Disabled " ++ rule ++ " in config", true⟩
    else
      return ⟨0, 1, "Failed to apply config change", false⟩
  | .ignoreLine =>
    let targets := suppressionTargets group.locations
    let done ← countSuccess (fun (file, line) => Patch.suppressLine file line rule) targets
    return .ofComments "line" rule done targets.length
  | .ignoreFile =>
    let files := distinct (group.locations.map (·.fileFull))
    let done ← countSuccess (fun file => Patch.suppressFile file rule) files
    return .ofComments "file" rule done files.length
  | .skip | .ask | .quit =>
    return ⟨0, 1, "Skipped " ++ rule, true⟩

/-- Lets the operator decide about a bundle and carries the decision out. -/
def present (group : RuleGroup) (file : Option String) (bundle : Bundle) :
    Step μ (Occurrence .present) := do
  let action ← Step.ofDecision (setup.operator.act bundle)
  match action.kind with
  | .quit => return { event := .quitRequested, phase := .quit }
  | .ask =>
    let answer ← Step.ofDialogue (Remedy.answerQuestion setup.channel bundle action.question)
    announce setup (View.answered answer)
    return { event := .followUp, phase := .present group file bundle }
  | _ =>
    let outcome ← Step.ofAct (perform setup.config group bundle action)
    announce setup (View.applied outcome.message outcome.ok)
    settle setup group file outcome.fixed outcome.skipped
    return { event := .actionDone, phase := .scan }

/-- What happens in a phase, nothing if the run is over. -/
def handle : (phase : Phase) → Step μ (Option (Occurrence phase.state))
  | .scan => some <$> scan setup
  | .parseError found => some <$> meetParseErrors setup found
  | .clean => some <$> endClean
  | .hasFindings found => some <$> meetFindings found
  | .repairOffered found => some <$> offerRepair setup found
  | .selectRule found => some <$> selectRule setup found
  | .gather group file => some <$> gather setup group file
  | .present group file bundle => some <$> present setup group file bundle
  | .done | .quit => return none

/-- Goes on to the next phase and gives the event that leads there, none if the run is over. -/
def step : Step μ (Option Event) := do
  match ← handle setup (← get).phase with
  | none => return none
  | some occurrence =>
    modify fun run => { run with phase := occurrence.phase }
    return some occurrence.event

def closingReport (run : Run μ) : RunRecord :=
  if run.report.status = .running then
    { run.report with status := if run.phase = .done then .done else .quit }
  else run.report

def finish : Step μ RunRecord := do
  let report := closingReport (← get)
  Step.report fun _ => report
  (View.finished report).forM (announce setup)
  return report

end Loop
end LintRemedy
