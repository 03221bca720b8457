import LintRemedy.Proofs.Loop.History

/-!
This module contains the iterations of the loop: whatever a run holds after a scan is what that scan
has found, and the group that it works on was chosen among these findings.
-/

namespace LintRemedy
namespace Loop

variable {μ : Type}

def lastScan? (moves : List (Move μ)) : Option (Move μ) :=
  moves.find? (·.before.phase.state = .scan)

/-- What is found by a passage, if it is a scan that has not failed. -/
def Passage.found? (passage : Passage μ) : Option Aggregation :=
  if passage.state = .scan ∧ passage.event ≠ .scanFailed then passage.after.report.lastResult
  else none

/-- What the last scan in a history has found. -/
def lastFound? (moves : List (Move μ)) : Option Aggregation :=
  (lastScan? moves).bind (·.passage.found?)

def Phase.holds? : Phase → Option Aggregation
  | parseError found | hasFindings found | repairOffered found | selectRule found => some found
  | _ => none

theorem Phase.state_ne_scan {phase : Phase} {found : Aggregation}
    (h : phase.holds? = some found) : phase.state ≠ .scan := by
  cases phase with
  | scan => cases h
  | _ => nofun

theorem Phase.eq_scan {phase : Phase} (h : phase.state = .scan) : phase = .scan := by
  cases phase with
  | scan => rfl
  | _ => cases h

def Phase.work? : Phase → Option (RuleGroup × Option String)
  | gather group file | present group file _ => some (group, file)
  | _ => none

def Move.work? (move : Move μ) : Option (RuleGroup × Option String) :=
  if move.event = .ruleSelected then move.after.phase.work? else none

/-- The work that was chosen last in a history. -/
def lastWork? (moves : List (Move μ)) : Option (RuleGroup × Option String) :=
  moves.findSome? Move.work?

section Moves

variable {run after : Run μ} {event : Event} {moves : List (Move μ)}

theorem lastScan?_cons_of_ne (h : run.phase.state ≠ .scan) :
    lastScan? (⟨run, event, after⟩ :: moves) = lastScan? moves := by
  unfold lastScan?
  exact List.find?_cons_of_neg (by simpa using h)

theorem lastScan?_cons (h : run.phase = .scan) :
    lastScan? (⟨run, event, after⟩ :: moves) = some ⟨run, event, after⟩ := by
  unfold lastScan?
  apply List.find?_cons_of_pos
  rw [decide_eq_true_eq]
  exact congrArg Phase.state h

theorem lastFound?_cons_of_ne (h : run.phase.state ≠ .scan) :
    lastFound? (⟨run, event, after⟩ :: moves) = lastFound? moves := by
  unfold lastFound?
  rw [lastScan?_cons_of_ne h]

theorem lastFound?_cons (h : run.phase = .scan) (hevent : event ≠ .scanFailed) :
    lastFound? (⟨run, event, after⟩ :: moves) = after.report.lastResult := by
  unfold lastFound? Passage.found?
  rw [lastScan?_cons h, Option.bind_some]
  exact if_pos ⟨congrArg Phase.state h, hevent⟩

theorem lastWork?_cons_of_ne (h : event ≠ .ruleSelected) :
    lastWork? (⟨run, event, after⟩ :: moves) = lastWork? moves := by
  unfold lastWork?
  rw [List.findSome?_cons]
  unfold Move.work?
  rw [if_neg h]

theorem lastWork?_cons {work : RuleGroup × Option String} (h : after.phase.work? = some work) :
    lastWork? (⟨run, .ruleSelected, after⟩ :: moves) = some work := by
  unfold lastWork?
  rw [List.findSome?_cons]
  unfold Move.work?
  rw [if_pos rfl, h]

end Moves

/-- The operator has chosen this work when what the last scan has found was offered. -/
def Chosen (setup : Setup μ) (moves : List (Move μ)) (group : RuleGroup) (file : Option String) :
    Prop :=
  ∃ found memory memory', lastFound? moves = some found ∧
    (setup.operator.select found.selectable).Yields memory (.chosen group file) memory'

/-- A run holds what the last scan has found, and works on what was chosen from that. -/
structure Current (setup : Setup μ) (moves : List (Move μ)) (run : Run μ) : Prop where
  found : ∀ found, run.phase.holds? = some found → lastFound? moves = some found
  work : ∀ group file, run.phase.work? = some (group, file) →
    lastWork? moves = some (group, file) ∧ Chosen setup moves group file

namespace Current

variable {setup : Setup μ} {moves : List (Move μ)} {run after : Run μ} {event : Event}
  {found : Aggregation} {group : RuleGroup} {file : Option String}

/-- A run that holds nothing and works on nothing. -/
theorem idle (holds : run.phase.holds? = none) (work : run.phase.work? = none) :
    Current setup moves run where
  found _ h := by
    rw [holds] at h
    cases h
  work _ _ h := by
    rw [work] at h
    cases h

theorem start (setup : Setup μ) (memory : μ) (world : World) :
    Current setup [] (.start memory world) :=
  idle rfl rfl

/-- A run that holds what the last scan has found. -/
theorem hold (holds : run.phase.holds? = some found) (work : run.phase.work? = none)
    (last : lastFound? moves = some found) : Current setup moves run where
  found other h := by
    rw [holds] at h
    rw [last, h]
  work _ _ h := by
    rw [work] at h
    cases h

/-- A move that leads on with the same findings. -/
theorem keep (current : Current setup moves run) (phase : run.phase.holds? = some found)
    (holds : after.phase.holds? = some found) (work : after.phase.work? = none) :
    Current setup (⟨run, event, after⟩ :: moves) after := by
  apply hold holds work
  rw [lastFound?_cons_of_ne (Phase.state_ne_scan phase)]
  exact current.found found phase

/-- A run that works on what was chosen last. -/
theorem workOn (holds : run.phase.holds? = none) (work : run.phase.work? = some (group, file))
    (last : lastWork? moves = some (group, file)) (chosen : Chosen setup moves group file) :
    Current setup moves run where
  found _ h := by
    rw [holds] at h
    cases h
  work _ _ h := by
    rw [work] at h
    cases h
    exact ⟨last, chosen⟩

theorem step (current : Current setup moves run) (h : Transition setup run event after) :
    Current setup (⟨run, event, after⟩ :: moves) after := by
  cases h with
  | scanFailed | noIssues | halt | finished | repairApplied | stalled | nothingSelectable
  | quitSelecting | exhausted | noBundle | quitPresenting | actionDone =>
    exact idle rfl rfl
  | parseErrorsFound phase | issuesFound phase =>
    exact hold rfl rfl (lastFound?_cons phase (by decide))
  | goOn phase | fixablePresent phase | noneFixable phase | repairDeclined phase
  | repairFailed phase =>
    exact current.keep (congrArg Phase.holds? phase) rfl rfl
  | @ruleSelected found memory _ _ _ phase _ decided =>
    refine workOn rfl rfl (lastWork?_cons rfl) ⟨found, _, memory, ?_, decided⟩
    rw [lastFound?_cons_of_ne (Phase.state_ne_scan (congrArg Phase.holds? phase))]
    exact current.found found (congrArg Phase.holds? phase)
  | bundleReady phase | followUp phase =>
    obtain ⟨last, chosen⟩ := current.work _ _ (congrArg Phase.work? phase)
    refine workOn rfl rfl ?_ ?_
    · rw [lastWork?_cons_of_ne (by decide)]
      exact last
    · unfold Chosen
      rw [lastFound?_cons_of_ne (by rw [phase]; nofun)]
      exact chosen

theorem of_reaches {memory : μ} {world : World}
    (h : Reaches setup (.start memory world) moves run) : Current setup moves run := by
  induction h with
  | here => exact start setup memory world
  | move _ last ih => exact ih.step (step_transition last)

end Current

end Loop
end LintRemedy
