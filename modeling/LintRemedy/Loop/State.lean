import LintRemedy.Fault

/-!
This module contains the states of the repair loop, the events that end them, and the table that
tells which state follows.
-/

namespace LintRemedy
namespace Loop

inductive State where
  | scan
  | parseError
  | clean
  | hasFindings
  | repairOffered
  | selectRule
  | gather
  | present
  | done
  | quit
deriving DecidableEq, Repr

inductive Event where
  | scanFailed
  | parseErrorsFound
  | noIssues
  | issuesFound
  | goOn
  | halt
  | finished
  | fixablePresent
  | noneFixable
  | repairApplied
  | repairDeclined
  | repairFailed
  | nothingSelectable
  | stalled
  | ruleSelected
  | quitRequested
  | exhausted
  | bundleReady
  | noBundle
  | actionDone
  | followUp
deriving DecidableEq, Repr

namespace State

def all : List State :=
  [scan, parseError, clean, hasFindings, repairOffered, selectRule, gather, present, done, quit]

def name : State → String
  | scan => "scan"
  | parseError => "parse_error"
  | clean => "clean"
  | hasFindings => "has_findings"
  | repairOffered => "autofix_offered"
  | selectRule => "select_rule"
  | gather => "generate_fix"
  | present => "present"
  | done => "done"
  | quit => "quit"

def ofName (name : String) : Except Fault State :=
  match all.find? (·.name = name) with
  | some state => .ok state
  | none => .error (.unknownState name)

theorem ofName_name (state : State) : ofName state.name = .ok state := by
  cases state <;> rfl

def isFinal (state : State) : Bool :=
  state = done ∨ state = quit

end State

namespace Event

def all : List Event :=
  [scanFailed, parseErrorsFound, noIssues, issuesFound, goOn, halt, finished, fixablePresent,
    noneFixable, repairApplied, repairDeclined, repairFailed, nothingSelectable, stalled,
    ruleSelected, quitRequested, exhausted, bundleReady, noBundle, actionDone, followUp]

def name : Event → String
  | scanFailed => "scan_failed"
  | parseErrorsFound => "parse_errors_found"
  | noIssues => "no_issues"
  | issuesFound => "issues_found"
  | goOn => "continue"
  | halt => "halt"
  | finished => "finished"
  | fixablePresent => "fixable_present"
  | noneFixable => "none_fixable"
  | repairApplied => "autofix_applied"
  | repairDeclined => "autofix_declined"
  | repairFailed => "autofix_failed"
  | nothingSelectable => "nothing_selectable"
  | stalled => "stalled"
  | ruleSelected => "rule_selected"
  | quitRequested => "quit_requested"
  | exhausted => "exhausted"
  | bundleReady => "bundle_ready"
  | noBundle => "no_bundle"
  | actionDone => "action_done"
  | followUp => "follow_up"

def ofName (name : String) : Except Fault Event :=
  match all.find? (·.name = name) with
  | some event => .ok event
  | none => .error (.unknownEvent name)

theorem ofName_name (event : Event) : ofName event.name = .ok event := by
  cases event <;> rfl

end Event

namespace State

/-- The state that follows, if the event can happen in the state. -/
def next? : State → Event → Option State
  | scan, .scanFailed => some quit
  | scan, .parseErrorsFound => some parseError
  | scan, .noIssues => some clean
  | scan, .issuesFound => some hasFindings
  | parseError, .goOn => some hasFindings
  | parseError, .halt => some quit
  | clean, .finished => some done
  | hasFindings, .fixablePresent => some repairOffered
  | hasFindings, .noneFixable => some selectRule
  | repairOffered, .repairApplied => some scan
  | repairOffered, .repairDeclined => some selectRule
  | repairOffered, .repairFailed => some selectRule
  | selectRule, .nothingSelectable => some scan
  | selectRule, .stalled => some done
  | selectRule, .ruleSelected => some gather
  | selectRule, .quitRequested => some quit
  | selectRule, .exhausted => some quit
  | gather, .bundleReady => some present
  | gather, .noBundle => some scan
  | present, .actionDone => some scan
  | present, .followUp => some present
  | present, .quitRequested => some quit
  | _, _ => none

/-- The state that follows, or the fault that none does. -/
def next (state : State) (event : Event) : Except Fault State :=
  match state.next? event with
  | some following => .ok following
  | none => .error (.invalidTransition state.name event.name)

end State
end Loop
end LintRemedy
